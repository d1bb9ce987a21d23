import RouteNetlink.Fault.Basic
import RouteNetlink.Kernel.FileTree
import RouteNetlink.Session.Settings

/-! Opening a socket: in which namespace, for which namespaces, and with which buffers. The machine
is a stand-in that programs run against; the theory does not rest on it. -/
namespace RouteNetlink

/-- What the answers of a kernel depend on. -/
structure Machine where
  /-- Whether the process may change the network and enter namespaces. -/
  privileged : Bool
  usualBuffer : Nat
  bufferLimit : Nat
  links : List UInt32

/-- One of the two buffers of a socket, with the names under which its size is set. -/
structure BufferOption where
  name : String
  control : String
  /-- What the kernel gives at least. -/
  least : Nat

namespace BufferOption

def receive : BufferOption := ⟨"SO_RCVBUF", "net.core.rmem_max", 2304⟩
def send : BufferOption := ⟨"SO_SNDBUF", "net.core.wmem_max", 4608⟩

end BufferOption

structure OpenSocket where
  receiveBuffer : Nat
  sendBuffer : Nat

namespace Machine

/-- A process in a container, whose only link is the loopback one. -/
def contained : Machine := ⟨false, 212992, 4194304, [1]⟩

def enter (machine : Machine) (path : String) : Except Fault Unit :=
  if '\x00' ∈ path.toList then .error (.invalidMessage (.namespaceUnnamed path))
  else
    match FileNode.root.openPath FileNode.workingNames path with
    | .error code => .error (.invalidMessage (.namespaceUnopened path code))
    | .ok (.namespaceHandle true) =>
      if machine.privileged then .ok () else .error (.io (.os OsError.notPermitted))
    | .ok _ => .error (.io (.os OsError.invalidArgument))

/-- The size of a buffer once `requested` bytes are asked for. The kernel keeps books on twice
what one may ask for; zero asks for nothing. -/
def granted (machine : Machine) (option : BufferOption) (requested : Nat) : Nat :=
  if requested = 0 then machine.usualBuffer
  else max (2 * min requested machine.bufferLimit) option.least

def setBuffer (machine : Machine) (option : BufferOption) (requested : Nat) (verify : Bool) :
    Except Fault Nat :=
  let actual := machine.granted option requested
  if verify ∧ actual < requested then
    .error (.bufferClamped option.name option.control requested actual)
  else .ok actual

/-- Opens a socket. The first step that fails decides. -/
def openSocket (machine : Machine) (settings : Settings) : Except Fault OpenSocket := do
  match settings.namespacePath? with
  | some path => machine.enter path
  | none => .ok ()
  if settings.listenAllNamespaces ∧ ¬machine.privileged then
    throw (.io (.os OsError.notPermitted))
  let receiveBuffer ← machine.setBuffer .receive settings.receiveBuffer settings.verifyBuffers
  let sendBuffer ← machine.setBuffer .send settings.sendBuffer settings.verifyBuffers
  return ⟨receiveBuffer, sendBuffer⟩

end Machine
end RouteNetlink
