import RouteNetlink.Datum.Basic

/-! Faults as plain data: which one it is, and its wording. -/
namespace RouteNetlink

namespace Fault

def tag : Fault → String
  | io _ => "Io"
  | kernel .. => "Kernel"
  | truncated .. => "Truncated"
  | unknownAttribute .. => "UnknownAttribute"
  | unknownMessageType _ => "UnknownMessageType"
  | invalidMessage _ => "InvalidMessage"
  | invalidAttribute _ => "InvalidAttribute"
  | bufferClamped .. => "BufferClamped"
  | timeout => "Timeout"
  | cancelled => "Cancelled"
  | closed => "Closed"
  | alreadyListening => "AlreadyListening"

def toDatum (fault : Fault) : Datum :=
  .record [("error", .text fault.tag), ("message", .text fault.message)]

instance : ToDatum Fault := ⟨toDatum⟩

def report (fault : Fault) : Datum :=
  .record
    [("is", datum fault), ("errno", datum fault.code?), ("is_cancelled", datum fault.isCancelled),
     ("is_timeout", datum fault.isTimeout), ("is_not_found", datum fault.isNotFound),
     ("is_permission_denied", datum fault.isPermissionDenied),
     ("is_decode", datum fault.isDecode)]

def ofDatum (d : Datum) : Except Misfit Fault := do
  match ← (d.need "kind" : Except Misfit String) with
  | "from_errno" => return ofCode (← d.need "errno")
  | "Kernel" => return kernel (← d.need "errno") (← d.need "text")
  | "Io" => return io (.os (← d.need "errno"))
  | "IoOther" => return io (.stated (← d.need "text"))
  | "Truncated" => return truncated (← d.need "expected") (← d.need "actual")
  | "UnknownAttribute" =>
    return unknownAttribute (← d.need "family") (← d.need "attr") (← d.need "max")
  | "UnknownMessageType" => return unknownMessageType (← d.need "type")
  | "InvalidMessage" => return invalidMessage (.stated (← d.need "text"))
  | "InvalidAttribute" => return invalidAttribute (.stated (← d.need "text"))
  | "BufferClamped" =>
    return bufferClamped (← d.need "option") (← d.need "sysctl") (← d.need "requested")
      (← d.need "actual")
  | "Timeout" => return timeout
  | "Cancelled" => return cancelled
  | "Closed" => return closed
  | "AlreadyListening" => return alreadyListening
  | _ => throw (.expected "a kind of fault")

instance : OfDatum Fault := ⟨ofDatum⟩

end Fault

instance {α : Type} [ToDatum α] : ToDatum (Except Fault α) where
  datum
    | .ok a => datum a
    | .error fault => datum fault

end RouteNetlink
