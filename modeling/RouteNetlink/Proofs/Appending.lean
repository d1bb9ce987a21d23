import RouteNetlink.Proofs.Rounds

/-! Framing as all or nothing. A call appends one whole record, or it leaves the bytes as they
were; a number that a refused call used up comes back only after all others. -/
namespace RouteNetlink

namespace TransmitBuffer

/-- What a transmit buffer is used for. -/
inductive Use where
  | frame (message : Message)
  | add (header : Header) (bodySize : Nat) (fill : UInt8)
  | clear
  | truncate (size : Nat)

/-- The header that a use stamps, and the size of the body behind it. -/
def Use.stamps? : Use → Option (Header × Nat)
  | frame message => some (message.header, message.body.size)
  | add header bodySize _ => some (header, bodySize)
  | clear | truncate _ => none

/-- The buffer after a use, which may have been refused. -/
def after (buffer : TransmitBuffer) : Use → TransmitBuffer
  | .frame message => (message.frame buffer).buffer
  | .add header bodySize fill =>
    match buffer.add header bodySize fill with
    | .ok (_, next) => next
    | .error _ => buffer
  | .clear => buffer.clear
  | .truncate size => buffer.truncate size

/-- The number that a use takes from the counter for a header that comes without one. -/
def drawn? (buffer : TransmitBuffer) (use : Use) : Option UInt32 :=
  match use.stamps? with
  | none => none
  | some (header, bodySize) =>
    match buffer.stamp header bodySize with
    | .error _ => none
    | .ok (stamped, _) => if header.sequence = 0 then some stamped.sequence else none

def draws (buffer : TransmitBuffer) : List Use → List UInt32
  | [] => []
  | use :: uses => (buffer.drawn? use).toList ++ (buffer.after use).draws uses

variable {buffer : TransmitBuffer} {header : Header} {bodySize n i : Nat} {number : UInt32}

theorem drawn?_of_short {use : Use} (hu : use.stamps? = some (header, bodySize))
    (hs : Header.size + bodySize < UInt32.size) :
    buffer.drawn? use = if header.sequence = 0 then some buffer.nextSequence else none := by
  simp only [drawn?, hu, stamp_of_short hs, stamped]
  split <;> rfl

theorem drawn?_of_long {use : Use} (hu : use.stamps? = some (header, bodySize))
    (hl : UInt32.size ≤ Header.size + bodySize) : buffer.drawn? use = none := by
  simp only [drawn?, hu, stamp_of_long hl]

theorem counter_frame (message : Message) (hs : Header.size + message.body.size < UInt32.size) :
    (message.frame buffer).buffer.nextSequence =
      (buffer.counted message.header).nextSequence := by
  cases hf : message.body.fits with
  | true =>
    rw [Message.frame_of_fits hf hs]
    rfl
  | false =>
    obtain ⟨kind, size, h⟩ := Message.frame_of_overlong hf hs buffer
    rw [h]

/-- A use stamps a header if the record is short enough, and leaves the counter alone if not. -/
theorem counter_after {use : Use} (hu : use.stamps? = some (header, bodySize)) :
    (buffer.after use).nextSequence =
      if Header.size + bodySize < UInt32.size then (buffer.counted header).nextSequence
      else buffer.nextSequence := by
  cases use with
  | frame message =>
    cases hu
    split
    · rename_i hs
      exact counter_frame message hs
    · rename_i hl
      rw [after, Message.frame_of_long (Nat.not_lt.1 hl)]
  | add header bodySize fill =>
    cases hu
    split
    · rename_i hs
      simp only [after, add, stamp_of_short hs]
      rfl
    · rename_i hl
      simp only [after, add, stamp_of_long (Nat.not_lt.1 hl)]
      rfl
  | clear => cases hu
  | truncate size => cases hu

/-- A use takes the number at which the counter stands and moves it on, or does neither. -/
theorem drawn?_cases (buffer : TransmitBuffer) (use : Use) :
    (buffer.drawn? use = none ∧ (buffer.after use).nextSequence = buffer.nextSequence) ∨
      buffer.drawn? use = some buffer.nextSequence ∧
        (buffer.after use).nextSequence = successor buffer.nextSequence := by
  cases hu : use.stamps? with
  | none =>
    have hd : buffer.drawn? use = none := by simp only [drawn?, hu]
    cases use with
    | frame message => cases hu
    | add header bodySize fill => cases hu
    | clear => exact .inl ⟨hd, rfl⟩
    | truncate size => exact .inl ⟨hd, rfl⟩
  | some stamp =>
    obtain ⟨header, bodySize⟩ := stamp
    rw [counter_after hu]
    by_cases hs : Header.size + bodySize < UInt32.size
    · rw [drawn?_of_short hu hs, if_pos hs, counted]
      by_cases hz : header.sequence = 0
      · rw [if_pos hz, if_pos hz]
        exact .inr ⟨rfl, rfl⟩
      · rw [if_neg hz, if_neg hz]
        exact .inl ⟨rfl, rfl⟩
    · rw [if_neg hs]
      exact .inl ⟨drawn?_of_long hu (Nat.not_lt.1 hs), rfl⟩

/-- The numbers that are taken follow one another, whatever is done in between. -/
theorem draws_getElem? {uses : List Use} (h : buffer.nextSequence = nth n)
    (hi : (buffer.draws uses)[i]? = some number) : number = nth (n + i) := by
  induction uses generalizing buffer n i with
  | nil => cases hi
  | cons use uses ih =>
    rw [draws] at hi
    rcases buffer.drawn?_cases use with ⟨hd, hc⟩ | ⟨hd, hc⟩
    · rw [hd] at hi
      exact ih (hc.trans h) hi
    · rw [hd] at hi
      cases i with
      | zero =>
        cases hi
        exact h
      | succ i =>
        have hnext : (buffer.after use).nextSequence = nth (n + 1) := by
          rw [hc, h, successor_nth]
        rw [ih hnext hi, Nat.add_assoc, Nat.add_comm 1]

end TransmitBuffer

namespace Session

variable {message framed : Message} {buffer : TransmitBuffer} {fault? : Option Fault}

end Session

end RouteNetlink
