import RouteNetlink.Datum.Message
import RouteNetlink.Session.Task
import RouteNetlink.Session.Transport

/-! What a session receives and what its tasks come to, as plain data. -/
namespace RouteNetlink

instance : OfDatum Arrival where
  read d := do
    match d.field? "errno" with
    | some code => return .failure (← OfDatum.read code)
    | none => return .datagram (← d.needBytes "hex") (← d.optional "nsid")

instance : OfDatum SendRule where
  read d := do
    match d.field? "errno" with
    | some code => return .fail (← OfDatum.read code)
    | none => return .accept (← d.need "accept")

instance : ToDatum TaskResult where
  datum
    | .replied reply => datum reply
    | .acknowledged => .text "acked"
    | .stopped => .text "stopped"
    | .failed fault => datum fault

instance : ToDatum Task where
  datum
    | .reserved _ => .text "reserved"
    | .finished result => datum result
    | _ => .text "pending"

def Message.brief (message : Message) : Datum :=
  .record [("type", datum message.tag), ("header", datum message.header)]

end RouteNetlink
