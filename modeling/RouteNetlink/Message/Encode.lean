import RouteNetlink.Attribute.Encode
import RouteNetlink.Message.Basic
import RouteNetlink.Message.TransmitBuffer

/-! Encoding messages as records of a transmit buffer. -/
namespace RouteNetlink

namespace Body

def size : Body → Nat
  | noop | done => 0
  | reply _ _ => Layout.i32.width + Header.size
  | query _ => 1
  | entity e attributes => e.subject.fixedSize + attributes.size

/-- The body, filled from its zeroed state as far as its attributes can be encoded. -/
def encode : Body → Filled
  | noop | done => ⟨[], none⟩
  | reply code request => ⟨Layout.i32.encode code ++ request.encode, none⟩
  | query family => ⟨[family.code], none⟩
  | entity e attributes =>
    let filled := attributes.encodeInto (List.replicate attributes.size 0)
    ⟨e.encode ++ filled.bytes, filled.fault?⟩

end Body

/-- A message after an attempt to frame it: its header is the stamped one. -/
structure Framing where
  message : Message
  buffer : TransmitBuffer
  fault? : Option Fault

namespace Message

/-- Appends the message; what a fault left half-written stays. -/
def appendTo (message : Message) (buffer : TransmitBuffer) : Framing :=
  match buffer.stamp message.header message.body.size with
  | .error fault => ⟨message, buffer, some fault⟩
  | .ok (header, buffer) =>
    let filled := message.body.encode
    ⟨{ message with header := header }, buffer.append header filled.bytes, filled.fault?⟩

/-- Appends the message, or leaves the bytes as they were. -/
def frame (message : Message) (buffer : TransmitBuffer) : Framing :=
  let framing := message.appendTo buffer
  match framing.fault? with
  | none => framing
  | some _ => { framing with buffer := framing.buffer.truncate buffer.size }

end Message
end RouteNetlink
