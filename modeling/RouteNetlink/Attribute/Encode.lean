import RouteNetlink.Attribute.Run

/-! Encoding attributes into a buffer. The buffer must have exactly the encoded size. A
fault leaves it as far as it was filled. -/
namespace RouteNetlink

/-- What a buffer holds after an encoding, and the fault that stopped it. -/
structure Filled where
  bytes : List UInt8
  fault? : Option Fault
  deriving DecidableEq

namespace Attribute

/-- The length field has sixteen bits and counts the header. -/
def maxSize : Nat := 65535 - RunItem.headerSize

mutual

/-- Encoded size, without the header in front and the padding behind. -/
def size : Attribute → Nat
  | value v => v.size
  | table _ slots => sizeOfSlots slots

def sizeOfSlots : List (Option Attribute) → Nat
  | [] => 0
  | none :: slots => sizeOfSlots slots
  | some a :: slots => RunItem.headerSize + align4 (size a) + sizeOfSlots slots

end

def header (kind size : Nat) : List UInt8 :=
  RunItem.header.encode (UInt16.ofNat (RunItem.headerSize + size), UInt16.ofNat kind)

mutual

def encodeInto (buffer : List UInt8) : Attribute → Filled
  | value v =>
    if buffer.length = v.size then ⟨v.encode, none⟩
    else ⟨buffer, some (.truncated v.size buffer.length)⟩
  | table _ slots =>
    if buffer.length = sizeOfSlots slots then encodeSlots 0 buffer slots
    else ⟨buffer, some (.truncated (sizeOfSlots slots) buffer.length)⟩

/-- Writes the present slots, the first of which has the given kind, one after another. -/
def encodeSlots (kind : Nat) (buffer : List UInt8) : List (Option Attribute) → Filled
  | [] => ⟨buffer, none⟩
  | none :: slots => encodeSlots (kind + 1) buffer slots
  | some a :: slots =>
    let size := size a
    if maxSize < size then ⟨buffer, some (.invalidAttribute (.tooLong kind size))⟩
    else
      let filled := encodeInto ((buffer.drop RunItem.headerSize).take size) a
      match filled.fault? with
      | some fault =>
        ⟨header kind size ++ filled.bytes ++ buffer.drop (RunItem.headerSize + size), some fault⟩
      | none =>
        let rest :=
          encodeSlots (kind + 1) (buffer.drop (RunItem.headerSize + align4 size)) slots
        ⟨header kind size ++ filled.bytes ++ padding size ++ rest.bytes, rest.fault?⟩

end

def encode (a : Attribute) : Filled := encodeInto (List.replicate a.size 0) a

end Attribute

namespace Table

def size (table : Table) : Nat := Attribute.sizeOfSlots table

def encodeInto (buffer : List UInt8) (table : Table) : Filled :=
  if buffer.length = size table then Attribute.encodeSlots 0 buffer table
  else ⟨buffer, some (.truncated (size table) buffer.length)⟩

end Table
end RouteNetlink
