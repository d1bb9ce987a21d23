import RouteNetlink.Proofs.Appending

/-! Fresh sequence numbers. A new transmit buffer gives one, two and so on, and round again without
zero, whatever else is done to it in between. -/
namespace RouteNetlink
namespace TransmitBuffer

def refusal? (buffer : TransmitBuffer) : Use → Option Fault
  | .frame message => (message.frame buffer).fault?
  | .add header bodySize fill =>
    match buffer.add header bodySize fill with
    | .ok _ => none
    | .error fault => some fault
  | .clear | .truncate _ => none

def headerAfter? (buffer : TransmitBuffer) : Use → Option Header
  | .frame message => some (message.frame buffer).message.header
  | .add header bodySize fill =>
    match buffer.add header bodySize fill with
    | .ok (stamped, _) => some stamped
    | .error _ => some header
  | .clear | .truncate _ => none

def afterAll (buffer : TransmitBuffer) (uses : List Use) : TransmitBuffer := uses.foldl after buffer

/-- What a use does to the counter, and to the header that it is given for a body of so many
bytes. -/
structure Numbers (buffer : TransmitBuffer) (use : Use) (header : Header) (bodySize : Nat) :
    Prop where
  long : 2 ^ 32 ≤ 16 + bodySize →
    buffer.refusal? use = some (.invalidMessage (.tooLong (16 + bodySize))) ∧
      buffer.drawn? use = none ∧ buffer.headerAfter? use = some header ∧ buffer.after use = buffer
  /-- A header without a number gets the one at which the counter stands. -/
  fresh : 16 + bodySize < 2 ^ 32 → header.sequence = 0 →
    buffer.drawn? use = some buffer.nextSequence ∧
      (∃ stamped, buffer.headerAfter? use = some stamped ∧
        stamped.sequence = buffer.nextSequence) ∧
      (buffer.after use).nextSequence = successor buffer.nextSequence
  /-- A header that has a number keeps it, and the counter stays where it is. -/
  preset : header.sequence ≠ 0 →
    buffer.drawn? use = none ∧
      (∃ stamped, buffer.headerAfter? use = some stamped ∧ stamped.sequence = header.sequence) ∧
      (buffer.after use).nextSequence = buffer.nextSequence
  /-- A body that is filled later is never refused for anything but its length. -/
  accepted : ∀ fill, use = .add header bodySize fill →
    (buffer.refusal? use = none ↔ 16 + bodySize < 2 ^ 32)

variable {buffer : TransmitBuffer} {header : Header} {bodySize n : Nat} {use : Use}

theorem add_of_short (hs : Header.size + bodySize < UInt32.size) (fill : UInt8) :
    buffer.add header bodySize fill =
      .ok (buffer.stamped header bodySize,
        (buffer.counted header).append (buffer.stamped header bodySize)
          (List.replicate bodySize fill)) := by
  rw [add, stamp_of_short hs]
  rfl

theorem add_of_long (hl : UInt32.size ≤ Header.size + bodySize) (fill : UInt8) :
    buffer.add header bodySize fill =
      .error (.invalidMessage (.tooLong (Header.size + bodySize))) := by
  rw [add, stamp_of_long hl]
  rfl

theorem unchanged_of_long (hu : use.stamps? = some (header, bodySize))
    (hl : UInt32.size ≤ Header.size + bodySize) :
    buffer.refusal? use = some (.invalidMessage (.tooLong (Header.size + bodySize))) ∧
      buffer.headerAfter? use = some header ∧ buffer.after use = buffer := by
  cases use with
  | frame message =>
    cases hu
    simp only [refusal?, headerAfter?, after, Message.frame_of_long hl, and_self]
  | add header bodySize fill =>
    cases hu
    simp only [refusal?, headerAfter?, after, add_of_long hl, and_self]
  | clear | truncate size => cases hu

/-- A header that is short enough gets its number, also where the attributes behind it do not
fit. -/
theorem headerAfter?_of_short (hu : use.stamps? = some (header, bodySize))
    (hs : Header.size + bodySize < UInt32.size) :
    buffer.headerAfter? use = some (buffer.stamped header bodySize) := by
  cases use with
  | frame message =>
    cases hu
    cases hf : message.body.fits with
    | true =>
      rw [headerAfter?, Message.frame_of_fits hf hs]
      rfl
    | false =>
      obtain ⟨kind, size, h⟩ := Message.frame_of_overlong hf hs buffer
      rw [headerAfter?, h]
      rfl
  | add header bodySize fill =>
    cases hu
    simp only [headerAfter?, add_of_short hs]
  | clear | truncate size => cases hu

theorem numbers_of_stamps? (hu : use.stamps? = some (header, bodySize)) :
    buffer.Numbers use header bodySize where
  long hl := by
    obtain ⟨hr, hh, ha⟩ := unchanged_of_long hu hl
    exact ⟨hr, drawn?_of_long hu hl, hh, ha⟩
  fresh hshort hz := by
    have hs : Header.size + bodySize < UInt32.size := hshort
    refine ⟨?_, ⟨_, headerAfter?_of_short hu hs, if_pos hz⟩, ?_⟩
    · rw [drawn?_of_short hu hs, if_pos hz]
    · rw [counter_after hu, if_pos hs, counted, if_pos hz]
  preset hn := by
    by_cases hs : Header.size + bodySize < UInt32.size
    · refine ⟨?_, ⟨_, headerAfter?_of_short hu hs, if_neg hn⟩, ?_⟩
      · rw [drawn?_of_short hu hs, if_neg hn]
      · rw [counter_after hu, if_pos hs, counted, if_neg hn]
    · have hl := Nat.not_lt.1 hs
      obtain ⟨-, hh, ha⟩ := unchanged_of_long hu hl
      exact ⟨drawn?_of_long hu hl, ⟨_, hh, rfl⟩, by rw [ha]⟩
  accepted fill hadd := by
    subst hadd
    cases hu
    by_cases hs : Header.size + bodySize < UInt32.size
    · have hr : buffer.refusal? (.add header bodySize fill) = none := by
        simp only [refusal?, add_of_short hs]
      exact iff_of_true hr hs
    · have hr : buffer.refusal? (.add header bodySize fill) ≠ none := by
        simp only [refusal?, add_of_long (Nat.not_lt.1 hs)]
        exact Option.some_ne_none _
      exact iff_of_false hr hs

/-- The counter has moved on once for each number that was taken. -/
theorem counter_afterAll {uses : List Use} (h : buffer.nextSequence = nth n) :
    (buffer.afterAll uses).nextSequence = nth (n + (buffer.draws uses).length) := by
  induction uses generalizing buffer n with
  | nil => exact h
  | cons use uses ih =>
    rw [draws, List.length_append]
    rcases buffer.drawn?_cases use with ⟨hd, hc⟩ | ⟨hd, hc⟩
    · have hlater := ih (hc.trans h)
      rw [hd, Option.toList_none, List.length_nil, Nat.zero_add]
      exact hlater
    · have hnext : (buffer.after use).nextSequence = nth (n + 1) := by rw [hc, h, successor_nth]
      have hlater := ih hnext
      rw [hd, Option.toList_some, List.length_singleton, ← Nat.add_assoc]
      exact hlater

/-- Fewer than a whole round of numbers, taken one after another, are all different. -/
theorem nodup_draws {uses : List Use} (h : buffer.nextSequence = nth n) (start : Nat) :
    (((buffer.draws uses).drop start).take (2 ^ 32 - 1)).Nodup := by
  have hround : UInt32.size - 1 = 2 ^ 32 - 1 := rfl
  rw [List.nodup_iff_getElem?_ne_getElem?]
  intro i j hij hj hsame
  have hjround : j < 2 ^ 32 - 1 := Nat.lt_of_lt_of_le hj (List.length_take_le _ _)
  rw [List.getElem?_take_of_lt (hij.trans hjround), List.getElem?_take_of_lt hjround,
    List.getElem?_drop, List.getElem?_drop] at hsame
  have hlen : start + j < (buffer.draws uses).length := by
    rw [List.length_take, List.length_drop] at hj
    omega
  have hlater : (buffer.draws uses)[start + j]? = some (buffer.draws uses)[start + j] :=
    List.getElem?_eq_getElem hlen
  have hsooner := hsame.trans hlater
  have heq := (draws_getElem? h hlater).symm.trans (draws_getElem? h hsooner)
  have hsplit : n + (start + j) = n + (start + i) + (j - i) := by omega
  rw [hsplit] at heq
  have hperiod := period_of_nth_eq (Nat.sub_pos_of_lt hij) heq
  omega

/-- A new buffer gives every number but zero in turn, and then the same again. Which calls ask for
one, which bring their own or are refused, and what is dropped in between makes no difference. -/
theorem draws_new (port : UInt32) (uses : List Use) :
    let draws := (new port).draws uses
    let buffer := (new port).afterAll uses
    (∀ n number, draws[n]? = some number → number.toNat = n % (2 ^ 32 - 1) + 1) ∧
      (∀ number ∈ draws, number ≠ 0) ∧
      (∀ start, ((draws.drop start).take (2 ^ 32 - 1)).Nodup) ∧
      buffer.nextSequence.toNat = draws.length % (2 ^ 32 - 1) + 1 ∧
      (∀ use header bodySize, use.stamps? = some (header, bodySize) →
        buffer.Numbers use header bodySize) ∧
      ∀ use, use.stamps? = none →
        buffer.drawn? use = none ∧ (buffer.after use).nextSequence = buffer.nextSequence := by
  intro draws buffer
  have hfirst : (new port).nextSequence = nth 0 := rfl
  have hnth : ∀ n number, draws[n]? = some number → number = nth n := by
    intro n number h
    have := draws_getElem? hfirst h
    rwa [Nat.zero_add] at this
  refine ⟨?_, ?_, nodup_draws hfirst, ?_, fun _ _ _ => numbers_of_stamps?, ?_⟩
  · intro n number h
    rw [hnth n number h, toNat_nth]
    rfl
  · intro number hm
    obtain ⟨n, hn⟩ := List.mem_iff_getElem?.1 hm
    rw [hnth n number hn]
    exact nth_ne_zero n
  · rw [counter_afterAll hfirst, Nat.zero_add, toNat_nth]
    rfl
  · intro use hu
    rcases buffer.drawn?_cases use with h | ⟨hd, -⟩
    · exact h
    · simp only [drawn?, hu] at hd
      cases hd

/-- A header that has a number takes none, and a cleared buffer goes on counting. -/
example :
    (new 0).draws [.add (Header.new .noop 0) 0 0, .clear,
      .add { Header.new .noop 0 with sequence := 9 } 0 0, .add (Header.new .noop 0) 4 0] =
        [1, 2] := by
  decide +kernel

end TransmitBuffer
end RouteNetlink
