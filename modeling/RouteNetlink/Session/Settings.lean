import RouteNetlink.Text.Listing
import RouteNetlink.Vocabulary.Family
import RouteNetlink.Vocabulary.Group
import RouteNetlink.Vocabulary.RecordKind

/-! How a session is set up. -/
namespace RouteNetlink

/-- State that a session asks for in full before it streams changes. -/
structure DumpRequest where
  kind : RecordKind
  family : Family
  deriving DecidableEq

namespace DumpRequest

def noop : DumpRequest := ⟨.noop, .unspecified⟩

def isNoop (request : DumpRequest) : Bool := request.kind = .noop

def listing (request : DumpRequest) : String :=
  Listing.record "ListenRequest"
    [("kind", Listing.wrapped "MessageType" (toString request.kind.code)),
     ("family", Listing.wrapped "AddressFamily" (toString request.family.code))]

def links : List DumpRequest := [⟨.getLink, .packet⟩]
def addresses : List DumpRequest := [⟨.getAddress, .inet⟩, ⟨.getAddress, .inet6⟩]
def routes : List DumpRequest := [⟨.getRoute, .inet⟩, ⟨.getRoute, .inet6⟩]
def neighbors : List DumpRequest := [⟨.getNeighbor, .inet⟩, ⟨.getNeighbor, .inet6⟩]
def namespaces : List DumpRequest := [⟨.getNamespace, .unspecified⟩]

/-- Links come first, as addresses and routes refer to them. -/
def standard : List DumpRequest :=
  [⟨.getLink, .packet⟩, ⟨.getAddress, .inet⟩, ⟨.getRoute, .inet⟩, ⟨.getNeighbor, .inet⟩,
   ⟨.getAddress, .inet6⟩, ⟨.getNeighbor, .inet6⟩, ⟨.getRoute, .inet6⟩]

end DumpRequest

structure Settings where
  groups : List Group
  /-- Bytes asked for; zero keeps what the system gives. -/
  receiveBuffer : Nat
  sendBuffer : Nat
  verifyBuffers : Bool
  /-- How many messages wait for the reader before the receive loop stops. -/
  channelDepth : Nat
  poolCapacity : Nat
  /-- How often a dump is asked for before its failure ends the session. -/
  dumpAttempts : Nat
  dumps : List DumpRequest
  namespacePath? : Option String
  listenAllNamespaces : Bool
  channelDepth_pos : 0 < channelDepth := by omega
  dumpAttempts_pos : 0 < dumpAttempts := by omega

namespace Settings

def standard : Settings where
  groups := Group.standard
  receiveBuffer := 1048576
  sendBuffer := 1048576
  verifyBuffers := false
  channelDepth := 64
  poolCapacity := 256
  dumpAttempts := 5
  dumps := DumpRequest.standard
  namespacePath? := none
  listenAllNamespaces := false

/-- At least one message can wait. -/
def withChannelDepth (settings : Settings) (depth : Nat) : Settings :=
  { settings with channelDepth := max depth 1, channelDepth_pos := by omega }

/-- A dump is asked for at least once. -/
def withDumpAttempts (settings : Settings) (attempts : Nat) : Settings :=
  { settings with dumpAttempts := max attempts 1, dumpAttempts_pos := by omega }

def listing (settings : Settings) : String :=
  Listing.record "Config"
    [("groups", Listing.list (settings.groups.map fun group =>
        Listing.wrapped "MulticastGroup" (toString group.index))),
     ("receive_buffer", toString settings.receiveBuffer),
     ("send_buffer", toString settings.sendBuffer),
     ("verify_buffers", toString settings.verifyBuffers),
     ("channel_depth", toString settings.channelDepth),
     ("pool_capacity", toString settings.poolCapacity),
     ("dump_attempts", toString settings.dumpAttempts),
     ("listen_requests", Listing.list (settings.dumps.map DumpRequest.listing)),
     ("namespace", Listing.optional (settings.namespacePath?.map Listing.quoted)),
     ("listen_all_nsid", toString settings.listenAllNamespaces)]

end Settings
end RouteNetlink
