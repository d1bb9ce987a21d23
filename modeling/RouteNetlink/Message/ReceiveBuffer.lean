import RouteNetlink.Bytes.Alignment
import RouteNetlink.Message.Header

/-! Received bytes that wait for the rest of their record. A record is taken off the front
with its padding, once all of it is there. -/
namespace RouteNetlink

structure ReceiveBuffer where
  bytes : List UInt8
  namespaceId? : Option Int32
  deriving DecidableEq

namespace ReceiveBuffer

def empty : ReceiveBuffer := ⟨[], none⟩

def extend (buffer : ReceiveBuffer) (bs : List UInt8) : ReceiveBuffer :=
  { buffer with bytes := buffer.bytes ++ bs }

def clear (buffer : ReceiveBuffer) : ReceiveBuffer := { buffer with bytes := [] }

def size (buffer : ReceiveBuffer) : Nat := buffer.bytes.length

def isEmpty (buffer : ReceiveBuffer) : Bool := buffer.bytes.isEmpty

def declared (bs : List UInt8) : Nat := (Layout.u32.decode (bs.take 4)).toNat

/-- What the front of a buffer says. -/
inductive Front where
  | partialRecord
  /-- The declared length ends inside the header, so that no later boundary is known. -/
  | malformed (length : Nat)
  | record (length : Nat)
  deriving DecidableEq

def front (bs : List UInt8) : Front :=
  if reaches Header.size bs then
    if declared bs < Header.size then .malformed (declared bs)
    else if reaches (align4 (declared bs)) bs then .record (declared bs)
    else .partialRecord
  else .partialRecord

theorem front_eq_malformed_iff {bs : List UInt8} {length : Nat} :
    front bs = .malformed length ↔
      Header.size ≤ bs.length ∧ declared bs = length ∧ length < Header.size := by
  grind [front, reaches_iff]

theorem front_eq_record_iff {bs : List UInt8} {length : Nat} :
    front bs = .record length ↔
      declared bs = length ∧ Header.size ≤ length ∧ align4 length ≤ bs.length := by
  have := le_align4 length
  grind [front, reaches_iff]

/-- Takes the next record off the front. A malformed one takes all that is buffered with
it. -/
def next? (buffer : ReceiveBuffer) :
    Option (Except Fault (List UInt8) × ReceiveBuffer) :=
  match front buffer.bytes with
  | .partialRecord => none
  | .malformed length =>
    some (.error (.invalidMessage (.lengthBelowHeader length buffer.size)), buffer.clear)
  | .record length =>
    some (.ok (buffer.bytes.take length),
      { buffer with bytes := buffer.bytes.drop (align4 length) })

theorem size_of_next? {buffer rest : ReceiveBuffer} {item : Except Fault (List UInt8)}
    (h : buffer.next? = some (item, rest)) : rest.size < buffer.size := by
  unfold next? at h
  have hs : Header.size = 16 := rfl
  split at h
  · cases h
  · rename_i hf
    cases h
    have := (front_eq_malformed_iff.1 hf).1
    simp only [size, clear, List.length_nil]
    omega
  · rename_i length hf
    cases h
    obtain ⟨_, hl, ha⟩ := front_eq_record_iff.1 hf
    have := le_align4 length
    simp only [size, List.length_drop]
    omega

/-- All records and faults that can be taken now, and what stays buffered. -/
def drain (buffer : ReceiveBuffer) : List (Except Fault (List UInt8)) × ReceiveBuffer :=
  match h : buffer.next? with
  | none => ([], buffer)
  | some (item, rest) =>
    have := size_of_next? h
    let (items, last) := drain rest
    (item :: items, last)
termination_by buffer.size

end ReceiveBuffer
end RouteNetlink
