import RouteNetlink.Session.Settle
import RouteNetlink.Session.Task

/-! A session with tasks under names, one thread and a clock that only explicit steps move.
Between two steps everything runs as far as it can. -/
namespace RouteNetlink

structure Desk where
  session : Session
  /-- Whether the session can still be called; its tasks hold it on their own. -/
  held : Bool
  tasks : Named Task
  now : Nat

namespace Desk

def new (session : Session) : Desk := ⟨session, true, [], 0⟩

def ledger (desk : Desk) : Ledger := desk.session.ledger

def withLedger (desk : Desk) (ledger : Ledger) : Desk :=
  { desk with session := { desk.session with ledger } }

def task? (desk : Desk) (name : String) : Option Task := desk.tasks.lookup name

/-- Forgets a task. What it was doing stops. -/
def drop (desk : Desk) (name : String) : Desk :=
  let tasks := desk.tasks.forget name
  match desk.task? name with
  | none => desk
  | some .listening => { desk with tasks, session := desk.session.abandon }
  | some task => { desk.withLedger (desk.ledger.release task) with tasks }

def keep (desk : Desk) (name : String) (task : Task) : Desk :=
  let desk := desk.drop name
  { desk with tasks := desk.tasks.keep name task }

def register (desk : Desk) (name : String) (sequence : UInt32) : Except Fault Desk :=
  (desk.ledger.register sequence).map fun (reservation, ledger) =>
    (desk.withLedger ledger).keep name (.reserved reservation)

/-- Waits for the reply of a reservation, for so many milliseconds or for ever. -/
def wait (desk : Desk) (name : String) (duration? : Option Nat) : Option Desk :=
  match desk.task? name with
  | some (.reserved reservation) =>
    let task := Task.waiting reservation (duration?.map (desk.now + ·))
    some { desk with tasks := desk.tasks.keep name task }
  | _ => none

def pass (desk : Desk) (duration : Nat) : Desk := { desk with now := desk.now + duration }

def listen (desk : Desk) (name : String) (requests : List DumpRequest) : Desk :=
  let desk := desk.drop name
  let (started, session) := desk.session.listen requests
  let task :=
    match started with
    | .ok () => .listening
    | .error fault => .finished (.failed fault)
  { desk with session, tasks := desk.tasks.keep name task }

def reserve (desk : Desk) (name : String) (message : Message) :
    Except Fault UInt32 × Message × Desk :=
  let call := desk.session.reserve message
  let desk := { desk with session := call.session }
  match call.outcome with
  | .error fault => (.error fault, call.message, desk)
  | .ok receipt =>
    (.ok receipt.sequence, call.message,
      receipt.reservation?.elim desk fun reservation => desk.keep name (.reserved reservation))

/-- Sends a message and waits for its acknowledgement as a task. -/
def acknowledge (desk : Desk) (name : String) (message : Message) (duration : Nat) : Desk :=
  let desk := desk.drop name
  let call := desk.session.reserve message
  let desk := { desk with session := call.session }
  match call.outcome with
  | .error fault => desk.keep name (.finished (.failed fault))
  | .ok receipt =>
    receipt.reservation?.elim desk fun reservation =>
      desk.keep name (.acknowledging reservation (desk.now + duration))

/-- Ends the task of a receive loop that has stopped. -/
def collect (desk : Desk) : Desk :=
  match desk.session.receiving with
  | .stopped result =>
    { desk with
      tasks := desk.tasks.map fun (name, task) =>
        match task with
        | .listening => (name, .finished (.ofListening result))
        | _ => (name, task) }
  | _ => desk

def finishWaits (desk : Desk) : Desk :=
  let (ledger, tasks) := desk.ledger.finishWaits desk.now desk.tasks
  { desk.withLedger ledger with tasks }

/-- Whether anybody can still do something with the session. -/
def isUsed (desk : Desk) : Bool := desk.held || desk.tasks.any (·.2.usesSession)

/-- Lets everything run until it has to wait. A session that nobody uses any more ends. -/
def settle (desk : Desk) : Desk :=
  let desk := finishWaits (collect { desk with session := desk.session.settle })
  if desk.isUsed then desk else finishWaits { desk with session := desk.session.discard }

def finished (desk : Desk) : List String :=
  let names := desk.tasks.filterMap fun (name, task) =>
    match task with
    | .finished _ => some name
    | _ => none
  names.mergeSort fun a b => decide (a ≤ b)

def next? (desk : Desk) : Option (Message × Desk) :=
  desk.session.stream.next?.map fun (message, stream) =>
    (message, { desk with session := { desk.session with stream } })

def nextMany (desk : Desk) : Nat → List Message × Desk
  | 0 => ([], desk)
  | n + 1 =>
    match desk.next? with
    | none => ([], desk)
    | some (message, desk) =>
      let (messages, desk) := nextMany desk.settle n
      (message :: messages, desk)

end Desk
end RouteNetlink
