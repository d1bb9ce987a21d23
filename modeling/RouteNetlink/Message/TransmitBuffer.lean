import RouteNetlink.Message.Header

/-! Records framed one behind another, until they are sent. Each starts on a boundary, and
requests that come without a sequence number get the next one of a counter. -/
namespace RouteNetlink

structure TransmitBuffer where
  bytes : List UInt8
  port : UInt32
  nextSequence : UInt32
  deriving DecidableEq

namespace TransmitBuffer

def new (port : UInt32) : TransmitBuffer := ⟨[], port, 1⟩

/-- Zero marks what the kernel sends on its own, so the counter passes over it. -/
def successor (sequence : UInt32) : UInt32 := if sequence + 1 = 0 then 1 else sequence + 1

def stamp (buffer : TransmitBuffer) (header : Header) (bodySize : Nat) :
    Except Fault (Header × TransmitBuffer) :=
  let length := Header.size + bodySize
  if UInt32.size ≤ length then .error (.invalidMessage (.tooLong length))
  else
    let header :=
      { header with
        length := UInt32.ofNat length
        flags := header.flags ||| HeaderFlag.request
        port := buffer.port }
    if header.sequence = 0 then
      .ok ({ header with sequence := buffer.nextSequence },
        { buffer with nextSequence := successor buffer.nextSequence })
    else .ok (header, buffer)

def append (buffer : TransmitBuffer) (header : Header) (body : List UInt8) : TransmitBuffer :=
  { buffer with bytes := buffer.bytes ++ (header.encode ++ (body ++ padding body.length)) }

/-- Frames a record whose body is `bodySize` times the same byte. -/
def add (buffer : TransmitBuffer) (header : Header) (bodySize : Nat) (fill : UInt8) :
    Except Fault (Header × TransmitBuffer) := do
  let (header, buffer) ← buffer.stamp header bodySize
  return (header, buffer.append header (List.replicate bodySize fill))

def size (buffer : TransmitBuffer) : Nat := buffer.bytes.length

def isEmpty (buffer : TransmitBuffer) : Bool := buffer.bytes.isEmpty

def clear (buffer : TransmitBuffer) : TransmitBuffer := { buffer with bytes := [] }

/-- Drops what was framed after the buffer had `size` bytes. -/
def truncate (buffer : TransmitBuffer) (size : Nat) : TransmitBuffer :=
  { buffer with bytes := buffer.bytes.take size }

end TransmitBuffer
end RouteNetlink
