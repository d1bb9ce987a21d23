import RouteNetlink.Message.Encode
import RouteNetlink.Proofs.Spelling

/-! What framing a message does to a transmit buffer. A message whose attributes fit becomes
one record behind what was there; one with an attribute that is too long is refused. -/
namespace RouteNetlink
namespace TransmitBuffer

/-- The header that a record with a body of `bodySize` bytes gets. -/
def stamped (buffer : TransmitBuffer) (header : Header) (bodySize : Nat) : Header :=
  { header with
    length := UInt32.ofNat (Header.size + bodySize)
    flags := header.flags ||| HeaderFlag.request
    sequence := if header.sequence = 0 then buffer.nextSequence else header.sequence
    port := buffer.port }

/-- The buffer after a sequence number was taken, if the header needs one. -/
def counted (buffer : TransmitBuffer) (header : Header) : TransmitBuffer :=
  if header.sequence = 0 then { buffer with nextSequence := successor buffer.nextSequence }
  else buffer

variable {buffer : TransmitBuffer} {header : Header} {bodySize : Nat}

theorem stamp_of_short (h : Header.size + bodySize < UInt32.size) :
    buffer.stamp header bodySize =
      .ok (buffer.stamped header bodySize, buffer.counted header) := by
  unfold stamp stamped counted
  rw [if_neg (Nat.not_le.2 h)]
  by_cases hs : header.sequence = 0
  · simp only [hs, if_true]
  · simp only [hs, if_false]

theorem stamp_of_long (h : UInt32.size ≤ Header.size + bodySize) :
    buffer.stamp header bodySize =
      .error (.invalidMessage (.tooLong (Header.size + bodySize))) := if_pos h

@[simp] theorem counted_bytes (buffer : TransmitBuffer) (header : Header) :
    (buffer.counted header).bytes = buffer.bytes := by
  unfold counted
  split <;> rfl

theorem length_stamped (h : Header.size + bodySize < UInt32.size) :
    (buffer.stamped header bodySize).length.toNat = Header.size + bodySize := by
  have hm : (UInt32.ofNat (Header.size + bodySize)).toNat = Header.size + bodySize := by
    rw [UInt32.toNat_ofNat', Nat.mod_eq_of_lt h]
  exact hm

/-- A header that has its sequence number is stamped the same again for the same port. -/
theorem stamped_stamped {other : TransmitBuffer} (hp : other.port = buffer.port)
    (hs : (buffer.stamped header bodySize).sequence ≠ 0) :
    other.stamped (buffer.stamped header bodySize) bodySize =
      buffer.stamped header bodySize := by
  have hflags : header.flags ||| HeaderFlag.request ||| HeaderFlag.request =
      header.flags ||| HeaderFlag.request := by rw [UInt16.or_assoc, UInt16.or_self]
  have hseq : (if (buffer.stamped header bodySize).sequence = 0 then other.nextSequence
      else (buffer.stamped header bodySize).sequence) =
        (buffer.stamped header bodySize).sequence := if_neg hs
  rw [stamped, hseq, hp]
  simp only [stamped, hflags]

theorem successor_ne_zero (sequence : UInt32) : successor sequence ≠ 0 := by
  unfold successor
  split
  · decide
  · assumption

/-- The states of a transmit buffer: new ones, and what its operations make of them. -/
inductive Reached : TransmitBuffer → Prop where
  | new (port : UInt32) : Reached (new port)
  | append {buffer stampedBuffer : TransmitBuffer} {header stampedHeader : Header}
      {bodySize : Nat} (body : List UInt8) (h : Reached buffer)
      (hs : buffer.stamp header bodySize = .ok (stampedHeader, stampedBuffer)) :
      Reached (stampedBuffer.append stampedHeader body)
  | clear {buffer : TransmitBuffer} (h : Reached buffer) : Reached buffer.clear
  | truncate {buffer : TransmitBuffer} (size : Nat) (h : Reached buffer) :
      Reached (buffer.truncate size)

/-- The counter never stands at the number of unsolicited records. -/
theorem Reached.nextSequence_ne_zero {buffer : TransmitBuffer} (h : Reached buffer) :
    buffer.nextSequence ≠ 0 := by
  induction h with
  | new port => exact show (1 : UInt32) ≠ 0 by decide
  | @append buffer stampedBuffer header stampedHeader bodySize body h hs ih =>
    by_cases hl : Header.size + bodySize < UInt32.size
    · rw [stamp_of_short hl] at hs
      cases hs
      have hcount : (buffer.counted header).nextSequence ≠ 0 := by
        unfold counted
        split
        · exact successor_ne_zero _
        · exact ih
      exact hcount
    · rw [stamp_of_long (Nat.not_lt.1 hl)] at hs
      cases hs
  | clear h ih => exact ih
  | truncate size h ih => exact ih

theorem Reached.stamped_sequence_ne_zero {buffer : TransmitBuffer} (h : Reached buffer)
    (header : Header) (bodySize : Nat) : (buffer.stamped header bodySize).sequence ≠ 0 := by
  unfold stamped
  dsimp only
  split
  · exact h.nextSequence_ne_zero
  · assumption

end TransmitBuffer

namespace Body

/-- The encoding of a body whose attributes fit. -/
def spelled : Body → List UInt8
  | noop | done => []
  | reply code request => Layout.i32.encode code ++ request.encode
  | query family => [family.code]
  | entity e attributes => e.encode ++ attributes.spelled

/-- Whether every attribute, at any depth, has a size that a length field holds. -/
def fits : Body → Bool
  | entity _ attributes => attributes.fits
  | _ => true

@[simp] theorem length_spelled (body : Body) : body.spelled.length = body.size := by
  cases body with
  | reply code request => simp [spelled, size]
  | entity e attributes => simp [spelled, size]
  | _ => rfl

theorem encode_of_fits {body : Body} (h : body.fits = true) :
    body.encode = ⟨body.spelled, none⟩ := by
  cases body with
  | entity e attributes =>
    have hl : (List.replicate attributes.size (0 : UInt8)).length = attributes.size :=
      List.length_replicate
    simp only [encode, spelled, Table.encodeInto_of_fits hl h]
  | _ => rfl

theorem encode_overlong {body : Body} (h : body.fits = false) : body.encode.Overlong := by
  cases body with
  | entity e attributes =>
    have hl : (List.replicate attributes.size (0 : UInt8)).length = attributes.size :=
      List.length_replicate
    exact Table.encodeInto_overlong hl h
  | _ => cases h

end Body

namespace Message

variable {message : Message} {buffer : TransmitBuffer}

/-- The bytes of a message whose header says its length, without padding. -/
def record (message : Message) : List UInt8 := message.header.encode ++ message.body.spelled

@[simp] theorem length_record (message : Message) :
    message.record.length = Header.size + message.body.size := by simp [record]

/-- The record as it stands in a buffer, with the next one on a boundary. -/
def padded (message : Message) : List UInt8 :=
  message.record ++ padding (Header.size + message.body.size)

theorem padded_ne_nil (message : Message) : message.padded ≠ [] := by
  have hsize : Header.size = 16 := rfl
  apply List.ne_nil_of_length_pos
  rw [padded, List.length_append, length_record]
  omega

def stamped (message : Message) (buffer : TransmitBuffer) : Message :=
  { message with header := buffer.stamped message.header message.body.size }

/-- A message that fits is appended as one padded record. -/
theorem appendTo_of_fits (hf : message.body.fits = true)
    (hs : Header.size + message.body.size < UInt32.size) (buffer : TransmitBuffer) :
    message.appendTo buffer =
      ⟨message.stamped buffer,
        { buffer.counted message.header with
          bytes := buffer.bytes ++ (message.stamped buffer).padded },
        none⟩ := by
  -- The header ends on a boundary, so the body alone decides on the padding.
  have hpad : padding message.body.spelled.length =
      padding (Header.size + message.body.size) := by
    have hw : Header.size = 4 * 4 := rfl
    have hn : align4 (4 * 4 + message.body.size) - (4 * 4 + message.body.size) =
        align4 message.body.size - message.body.size := by
      unfold align4
      omega
    rw [Body.length_spelled, padding, padding, hw, hn]
  simp only [appendTo, TransmitBuffer.stamp_of_short hs, Body.encode_of_fits hf,
    TransmitBuffer.append, TransmitBuffer.counted_bytes, hpad, padded, record,
    stamped, List.append_assoc]

/-- A message that does not fit is refused. -/
theorem appendTo_overlong (hf : message.body.fits = false) (buffer : TransmitBuffer) :
    ∃ fault, (message.appendTo buffer).fault? = some fault := by
  by_cases hs : Header.size + message.body.size < UInt32.size
  · obtain ⟨kind, size, h⟩ := Body.encode_overlong hf
    refine ⟨.invalidAttribute (.tooLong kind size), ?_⟩
    simp only [appendTo, TransmitBuffer.stamp_of_short hs, h]
  · refine ⟨.invalidMessage (.tooLong (Header.size + message.body.size)), ?_⟩
    simp only [appendTo, TransmitBuffer.stamp_of_long (Nat.not_lt.1 hs)]

/-- Appending touches nothing that was framed before. -/
theorem exists_appendTo (message : Message) (buffer : TransmitBuffer) :
    ∃ added, (message.appendTo buffer).buffer.bytes = buffer.bytes ++ added := by
  by_cases hs : Header.size + message.body.size < UInt32.size
  · simp only [appendTo, TransmitBuffer.stamp_of_short hs, TransmitBuffer.append,
      TransmitBuffer.counted_bytes]
    exact ⟨_, rfl⟩
  · simp only [appendTo, TransmitBuffer.stamp_of_long (Nat.not_lt.1 hs)]
    exact ⟨[], (List.append_nil _).symm⟩

theorem frame_of_ok (h : (message.appendTo buffer).fault? = none) :
    message.frame buffer = message.appendTo buffer := by
  simp only [frame, h]

/-- A refused message leaves no bytes behind. -/
theorem frame_of_fault {fault : Fault} (h : (message.appendTo buffer).fault? = some fault) :
    (message.frame buffer).fault? = some fault ∧
      (message.frame buffer).buffer.bytes = buffer.bytes := by
  obtain ⟨added, ha⟩ := exists_appendTo message buffer
  have hf : message.frame buffer = { message.appendTo buffer with
      buffer := (message.appendTo buffer).buffer.truncate buffer.size } := by
    simp only [frame, h]
  rw [hf]
  refine ⟨h, ?_⟩
  simp only [TransmitBuffer.truncate, ha, TransmitBuffer.size]
  exact List.take_left' rfl

theorem frame_overlong (hf : message.body.fits = false) (buffer : TransmitBuffer) :
    (message.frame buffer).fault?.isNone = false ∧
      (message.frame buffer).buffer.bytes = buffer.bytes := by
  obtain ⟨fault, ha⟩ := appendTo_overlong hf buffer
  obtain ⟨hfault, hbytes⟩ := frame_of_fault ha
  exact ⟨by rw [hfault]; rfl, hbytes⟩

end Message
end RouteNetlink
