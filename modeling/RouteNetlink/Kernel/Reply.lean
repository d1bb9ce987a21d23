import RouteNetlink.Kernel.Machine
import RouteNetlink.Message.Decode
import RouteNetlink.Message.ReceiveBuffer

/-! What a kernel answers to requests that ask for an acknowledgement or that it refuses.
What it says about its own network is not known here. -/
namespace RouteNetlink

namespace RecordKind

/-- Kinds below are for the two sides of a socket, not for the network. -/
def firstNetwork : UInt16 := 16

/-- Kinds above stand for nothing. -/
def lastNetwork : UInt16 := 123

/-- Kinds come in fours: new, delete, get and set. -/
def onlyAsks (kind : RecordKind) : Bool := kind.code &&& 3 = 2

end RecordKind

namespace Machine

/-- The code with which a request is refused. -/
def refusal? (machine : Machine) (header : Header) (record : List UInt8) : Option Int32 :=
  let kind := header.kind
  if kind.code < RecordKind.firstNetwork then none
  else if RecordKind.lastNetwork < kind.code then some OsError.notSupported
  else if ¬kind.onlyAsks ∧ ¬machine.privileged then some OsError.notPermitted
  else
    match Message.decode record with
    | .ok ⟨_, .entity (.link link) _⟩ =>
      if kind = .getLink ∧ link.index ≠ 0 ∧ link.index ∉ machine.links then
        some OsError.noDevice
      else none
    | _ => none

/-- Whether a request that is not refused is answered with a plain acknowledgement. -/
def isAcknowledged (header : Header) : Bool :=
  header.kind.code < RecordKind.firstNetwork && header.hasFlags HeaderFlag.acknowledge

/-- A reply record. A refusal comes with the whole request, an acknowledgement with its
header alone. -/
def replyRecord (code : Int32) (header : Header) (request : List UInt8) : List UInt8 :=
  let length := Header.size + Layout.i32.width + request.length
  let reply : Header :=
    { Header.new .error (if code = 0 then HeaderFlag.capped else 0) with
      length := UInt32.ofNat (align4 length)
      sequence := header.sequence
      port := header.port }
  reply.encode ++ Layout.i32.encode code ++ request ++ padding request.length

def reply? (machine : Machine) (record : List UInt8) : Option (List UInt8) :=
  match Header.decode record with
  | .error _ => none
  | .ok header =>
    match machine.refusal? header record with
    | some code => some (replyRecord (-code) header record)
    | none =>
      if isAcknowledged header then some (replyRecord 0 header (record.take Header.size))
      else none

/-- The datagrams that answer one datagram, one for each record that is answered. -/
def replies (machine : Machine) (datagram : List UInt8) : List (List UInt8) :=
  (ReceiveBuffer.empty.extend datagram).drain.1.filterMap fun item =>
    item.toOption.bind machine.reply?

end Machine

end RouteNetlink
