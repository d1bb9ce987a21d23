import RouteNetlink.Datum.Message
import RouteNetlink.Session.Settings

/-! Settings from plain data, one setting after another. -/
namespace RouteNetlink

namespace DumpRequest

instance : ToDatum DumpRequest :=
  ⟨fun request => .list [datum request.kind, datum request.family, datum request.isNoop]⟩

instance : OfDatum DumpRequest where
  read d := do
    let (kind, family) : RecordKind × Family ← OfDatum.read d
    return ⟨kind, family⟩

def presets : List (String × List DumpRequest) :=
  [("NOOP", [noop]), ("LINKS", links), ("ADDRESSES", addresses), ("ROUTES", routes),
   ("NEIGHBORS", neighbors), ("NSIDS", namespaces), ("DEFAULT", standard)]

end DumpRequest

instance : ToDatum Group := ⟨fun group => datum group.index⟩
instance : OfDatum Group := ⟨fun d => Group.mk <$> OfDatum.read d⟩

namespace Settings

open OfDatum in
def choose (settings : Settings) (name : String) (d : Datum) : Except Misfit Settings :=
  match name with
  | "groups" => return { settings with groups := ← read d }
  | "receive_buffer" => return { settings with receiveBuffer := ← read d }
  | "send_buffer" => return { settings with sendBuffer := ← read d }
  | "verify_buffers" => return { settings with verifyBuffers := ← read d }
  | "channel_depth" => return settings.withChannelDepth (← read d)
  | "pool_capacity" => return { settings with poolCapacity := ← read d }
  | "dump_attempts" => return settings.withDumpAttempts (← read d)
  | "listen_requests" => return { settings with dumps := ← read d }
  | "namespace" => return { settings with namespacePath? := some (← read d) }
  | "listen_all_nsid" => return { settings with listenAllNamespaces := ← read d }
  | _ => throw (.expected "a setting")

def ofDatum (d : Datum) : Except Misfit Settings := do
  let choices : List (String × Datum) ← OfDatum.read d
  choices.foldlM (fun settings (name, value) => settings.choose name value) standard

instance : OfDatum Settings := ⟨ofDatum⟩

end Settings
end RouteNetlink
