import RouteNetlink.Kernel.Reply
import RouteNetlink.Session.Settle
import RouteNetlink.Session.Task

/-! A session over a socket of the kernel. Its caller and its receive loops share one thread:
the loops go on only while the caller has to wait, and only behind them is it noticed what the
socket is ready for. This is for programs; the theory is about sessions alone. -/
namespace RouteNetlink

/-- A receive loop that the caller has asked for. -/
inductive Listening where
  | asked (requests : List DumpRequest)
  | running
  | finished (result : TaskResult)
  deriving DecidableEq

/-- What a receive loop needs of the socket to go on. -/
inductive Demand where
  | nothing
  | write
  | read
  deriving DecidableEq

structure Conversation where
  machine : Machine
  session : Session
  loops : List Listening
  /-- Whether the caller can still learn how the last loop ended. -/
  joinable : Bool
  reservations : Named Reservation
  writable : Bool
  readable : Bool

namespace Listening

def start (session : Session) : Listening → Listening × Session
  | asked requests =>
    match session.listen requests with
    | (.ok (), session) => (running, session)
    | (.error fault, session) => (finished (.failed fault), session)
  | loop => (loop, session)

def startAll (session : Session) : List Listening → List Listening × Session
  | [] => ([], session)
  | loop :: loops =>
    let (loop, session) := loop.start session
    let (loops, session) := startAll session loops
    (loop :: loops, session)

def collect (receiving : Receiving) (loop : Listening) : Listening :=
  match loop, receiving with
  | running, .stopped result => finished (.ofListening result)
  | _, _ => loop

def result? : Listening → Option TaskResult
  | finished result => some result
  | _ => none

end Listening

namespace Session

/-- What the next step of the receive loop needs of the socket. -/
def demand (session : Session) : Demand :=
  match session.receiving with
  | .running ⟨.sending _, _, none⟩ => .write
  | .running ⟨.asking _, _, none⟩ => .nothing
  | .running ⟨_, buffer, none⟩ =>
    if session.closed || buffer.next?.isSome then .nothing else .read
  | _ => .nothing

/-- How often the receive loop can still ask for a dump. -/
def asksLeft (session : Session) : Nat :=
  match session.receiving with
  | .running ⟨.asking turn, _, _⟩ | .running ⟨.sending turn, _, _⟩
  | .running ⟨.awaiting turn _, _, _⟩ =>
    (turn.later.length + 1) * session.settings.dumpAttempts
  | _ => 0

/-- Whether a caller may frame a message: no flush is under way, and the receive loop is not
in line for one. -/
def isFree (session : Session) : Bool :=
  session.flight?.isNone &&
    match session.receiving with
    | .running ⟨.asking _, _, _⟩ => false
    | _ => true

end Session

namespace Conversation

def new (machine : Machine) (session : Session) : Conversation :=
  ⟨machine, session, [], false, [], false, false⟩

def pieces (conversation : Conversation) : Nat := conversation.session.transport.sent.length

/-- The kernel answers at once what has been sent since there were `known` pieces. -/
def answer (conversation : Conversation) (known : Nat) : Conversation :=
  let transport := conversation.session.transport
  let fresh := (transport.sent.take (transport.sent.length - known)).reverse
  let arrivals := (fresh.flatMap conversation.machine.replies).map (Arrival.datagram · none)
  { conversation with
    session :=
      { conversation.session with
        transport := { transport with arrivals := transport.arrivals ++ arrivals } } }

/-- Whether what has been noticed of the socket lets the receive loop go on. -/
def permits (conversation : Conversation) (session : Session) : Bool :=
  match session.demand with
  | .nothing => true
  | .write => conversation.writable
  | .read => conversation.readable

/-- Lets the receive loop run, with the kernel answering what it sends. Each further round
takes a question of the loop. -/
def runRounds (conversation : Conversation) : Nat → Conversation
  | 0 => conversation
  | rounds + 1 =>
    let session := conversation.session.runWhile conversation.permits
    let next := { conversation with session }
    if next.pieces = conversation.pieces then next
    else runRounds (next.answer conversation.pieces) rounds

/-- Gives every loop its turn. A read that finds nothing waits for the next notice. -/
def runLoops (conversation : Conversation) : Conversation :=
  let (loops, session) := Listening.startAll conversation.session conversation.loops
  let conversation := { conversation with session, loops }
  let conversation := conversation.runRounds (session.asksLeft + 2)
  { conversation with
    loops := conversation.loops.map (·.collect conversation.session.receiving)
    readable := conversation.readable && conversation.session.demand ≠ .read }

def notice (conversation : Conversation) : Conversation :=
  { conversation with
    writable := true
    readable := conversation.readable || !conversation.session.transport.arrivals.isEmpty }

def giveWay (conversation : Conversation) : Conversation := conversation.runLoops.notice

/-- Within so many turns a loop has started, written and read whatever it could. -/
def patience : Nat := 4

/-- Waits until something holds, for so many turns. -/
def waitFor (holds : Conversation → Bool) : Nat → Conversation → Conversation
  | 0, conversation => conversation
  | turns + 1, conversation =>
    if holds conversation then conversation else waitFor holds turns conversation.giveWay

def acquire (conversation : Conversation) : Conversation :=
  conversation.waitFor (·.session.isFree) patience

/-- Goes on with a flush. The first one has to wait until it is noticed that the socket takes
something. -/
def fly (conversation : Conversation) (progress : Progress) :
    Except Fault Receipt × Conversation :=
  match progress with
  | .landed result => (result, conversation)
  | .flying flight =>
    let conversation := if conversation.writable then conversation else conversation.giveWay
    let (result, session) := conversation.session.fly (.flying flight)
    (result, answer { conversation with session } conversation.pieces)

def call (conversation : Conversation) (start : Session → Call Progress) :
    Except Fault Receipt × Message × Conversation :=
  let conversation := conversation.acquire
  let call := start conversation.session
  let (result, conversation) := fly { conversation with session := call.session } call.outcome
  (result, call.message, conversation)

end Conversation
end RouteNetlink
