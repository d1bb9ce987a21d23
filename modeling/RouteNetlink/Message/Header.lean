import RouteNetlink.Bytes.Alignment
import RouteNetlink.Bytes.Layout
import RouteNetlink.Text.Outline
import RouteNetlink.Vocabulary.Flags
import RouteNetlink.Vocabulary.RecordKind

/-! The header in front of every record. -/
namespace RouteNetlink

namespace HeaderFlag

def request : UInt16 := 0x1
def multipart : UInt16 := 0x2
def acknowledge : UInt16 := 0x4
def dumpInterrupted : UInt16 := 0x10
def dump : UInt16 := 0x300
def capped : UInt16 := 0x100

end HeaderFlag

structure Header where
  /-- The size of the whole record without its padding. -/
  length : UInt32
  kind : RecordKind
  flags : UInt16
  /-- Zero for what the kernel sends on its own, and for requests not yet framed. -/
  sequence : UInt32
  port : UInt32
  /-- The namespace that a received record came from; never on the wire. -/
  namespaceId? : Option Int32
  deriving DecidableEq

namespace Header

def size : Nat := 16

def new (kind : RecordKind) (flags : UInt16) : Header where
  length := 16
  kind := kind
  flags := flags
  sequence := 0
  port := 0
  namespaceId? := none

abbrev Wire := UInt32 × UInt16 × UInt16 × UInt32 × UInt32

def wire : Layout Wire :=
  Layout.u32.pair (Layout.u16.pair (Layout.u16.pair (Layout.u32.pair Layout.u32)))

def ofWire : Wire → Header
  | (length, kind, flags, sequence, port) => ⟨length, ⟨kind⟩, flags, sequence, port, none⟩

def toWire (header : Header) : Wire :=
  (header.length, header.kind.code, header.flags, header.sequence, header.port)

def encode (header : Header) : List UInt8 := wire.encode header.toWire

def decode (bs : List UInt8) : Except Fault Header := (wire.leading bs).map ofWire

@[simp] theorem wire_width : wire.width = size := rfl

@[simp] theorem length_encode (header : Header) : header.encode.length = size := by
  simp [encode]

@[simp] theorem ofWire_toWire (header : Header) :
    ofWire header.toWire = { header with namespaceId? := none } := rfl

def writeOver (header : Header) (buffer : List UInt8) : Except Fault (List UInt8) :=
  if buffer.length < size then .error (.truncated size buffer.length)
  else .ok (header.encode ++ buffer.drop size)

def payloadLength (header : Header) : Nat := header.length.toNat - size

def hasFlags (header : Header) (flags : UInt16) : Bool := header.flags &&& flags = flags

def isMultipart (header : Header) : Bool := header.hasFlags HeaderFlag.multipart

def isDumpInterrupted (header : Header) : Bool := header.hasFlags HeaderFlag.dumpInterrupted

def outline (header : Header) : List Outline :=
  (header.namespaceId?.map fun id => Outline.field "nsid" (toString id)).toList ++
    [.field "len" (toString header.length), .field "seq" (toString header.sequence),
     .field "pid" (toString header.port)] ++
    if header.flags = 0 then []
    else [.field "flags" (FlagNames.header.text header.flags.toUInt64)]

end Header
end RouteNetlink
