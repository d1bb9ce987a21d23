import RouteNetlink.Session.Receive
import RouteNetlink.Session.Task

/-! A session among those who use it: callers that send, holders of reservations, the reader
of the stream and the peer. They act in any order, one step at a time, and every step comes
with what happens in it. -/
namespace RouteNetlink

structure Office where
  session : Session
  /-- The reservations that were handed out and not dropped since. -/
  held : List Reservation

namespace Office

inductive Purpose where
  | plain
  | reservation
  | dump (turn : DumpTurn)
  deriving DecidableEq

/-- What becomes of a received record. -/
inductive Fate where
  | dropped
  | delivered (reservation : Reservation) (reply : Reply)
  /-- Taken for the failure of the awaited dump. -/
  | failed (turn : DumpTurn) (code : Int32)
  | pushed (message : Message)
  deriving DecidableEq

inductive Event where
  | started (requests : List DumpRequest)
  /-- A message is in the transmit buffer, as it was stamped. -/
  | framed (purpose : Purpose) (message : Message)
  | refused (fault : Fault)
  /-- A reply is reserved, to the request with this header. -/
  | reserved (reservation : Reservation) (request : Header)
  | wrote (piece : List UInt8)
  | cleared
  /-- A call that had framed its message has failed. -/
  | failed (fault : Fault)
  | received (bytes : List UInt8) (namespaceId? : Option Int32)
  /-- The receive loop took a record, or what is no record, off its buffer. -/
  | took (phase : Phase) (item : Except Fault (List UInt8)) (namespaceId? : Option Int32)
      (fate : Fate)
  /-- A message left the receive loop for the stream. -/
  | forwarded (message : Message)
  | stopped (result : Except Fault Unit)
  | closed
  | released (reservation : Reservation)
  | finished (task : Task) (result : TaskResult)
  | read (message : Message)

inductive Action where
  | listen (requests : List DumpRequest)
  | tick
  | add (message : Message)
  | send (message : Message)
  | flush
  | reserve (message : Message)
  /-- One write of a caller's flush. -/
  | write
  /-- Looks whether a wait is over. -/
  | finish (task : Task) (now : Nat)
  | drop (reservation : Reservation)
  | close
  | arrive (arrival : Arrival)
  | hangUp
  /-- The transport will treat one more write in its own way. -/
  | rule (rule : SendRule)
  | read
  | closeStream
  | dropStream
  deriving DecidableEq

def new (settings : Settings) (port : UInt32) (transport : Transport) : Office :=
  ⟨.new settings port transport, []⟩

def framing (session : Session) (purpose : Purpose) (message : Message) : Event :=
  let call := session.add message
  match call.outcome with
  | .ok _ => .framed purpose call.message
  | .error fault => .refused fault

/-- The end of a flush, if it has come to that. -/
def landing (reservation? : Option Reservation) : Progress → List Event
  | .flying _ => []
  | .landed (.ok _) => [.cleared]
  | .landed (.error fault) =>
    .cleared :: ((reservation?.map Event.released).toList ++ [.failed fault])

def writing (session : Session) (flight : Flight) : List Event :=
  (match (session.transport.send flight.left).1 with
    | .ok n => [.wrote (flight.left.take n)]
    | .error _ => []) ++
  landing flight.receipt.reservation? (session.push flight).1

def sending (session : Session) (purpose : Purpose) (message : Message) : List Event :=
  let call := session.add message
  framing session purpose message ::
  match call.outcome with
  | .ok sequence => landing none (call.session.launch ⟨sequence, none⟩).1
  | .error _ => []

def reserving (session : Session) (message : Message) : List Event :=
  let call := session.add (Session.requestAck message)
  framing session .reservation (Session.requestAck message) ::
  match call.outcome with
  | .error _ => []
  | .ok sequence =>
    match call.session.ledger.register sequence with
    | .error fault => [.cleared, .failed fault]
    | .ok (reservation, ledger) =>
      .reserved reservation call.message.header ::
        landing (some reservation)
          ({ call.session with ledger }.launch ⟨sequence, some reservation⟩).1

/-- What a record says, marked with the namespace of its datagram, if it can be decoded. -/
def heard (item : Except Fault (List UInt8)) (namespaceId? : Option Int32) : Option Message :=
  (item.bind Message.decode).toOption.map fun message =>
    { message with header := { message.header with namespaceId? } }

/-- The answer to a request that was sent under a port, if the message is one. -/
def answer? (port : UInt32) (message : Message) : Option Reply :=
  message.reply?.filter (·.request.port = port)

/-- The answer to a request of ours that a record holds. -/
def answered (port : UInt32) (item : Except Fault (List UInt8))
    (namespaceId? : Option Int32) : Option Reply :=
  (heard item namespaceId?).bind (answer? port)

/-- What becomes of a record that is taken now. -/
def fate (session : Session) (phase : Phase) (item : Except Fault (List UInt8))
    (namespaceId? : Option Int32) : Fate :=
  match heard item namespaceId? with
  | none => .dropped
  | some message =>
    match (answer? session.port message).bind fun reply =>
      (session.ledger.waiter? reply.request.sequence).map (·, reply) with
    | some (reservation, reply) => .delivered reservation reply
    | none =>
      match phase.failure? session.port message with
      | some (turn, code) => .failed turn code
      | none => .pushed message

/-- The next record that is buffered, or what is read where there is none. -/
def reading (session : Session) (loop : ReceiveLoop) : List Event :=
  match loop.buffer.next? with
  | some (item, rest) =>
    [.took loop.phase item rest.namespaceId? (fate session loop.phase item rest.namespaceId?)]
  | none =>
    if session.closed then []
    else
      match session.transport.receive? with
      | some (.datagram (b :: bs) namespaceId?, _) => [.received (b :: bs) namespaceId?]
      | _ => []

def ticking (session : Session) (loop : ReceiveLoop) : List Event :=
  match loop.parked? with
  | some message => if session.closed then [] else [.forwarded message]
  | none =>
    match loop.phase with
    | .asking turn =>
      sending session (.dump turn) (.dump turn.request.kind turn.request.family)
    | .sending _ => session.flight?.elim [] (writing session)
    | _ => reading session loop

/-- The end of the receive loop, where a step has led to it. -/
def ending (session : Session) : List Event :=
  match session.receiving with
  | .stopped result => [.stopped result]
  | _ => []

/-- The reservation that the caller gets when its flush has ended. -/
def handed : Progress → List Reservation
  | .landed (.ok receipt) => receipt.reservation?.toList
  | _ => []

/-- Whether the flush under way is the receive loop's own. -/
def isAsking (session : Session) : Bool :=
  match session.receiving with
  | .running ⟨.sending _, _, _⟩ => true
  | _ => false

def withSession (office : Office) (session : Session) : Office := { office with session }

def withStream (office : Office) (stream : Stream) : Office :=
  office.withSession { office.session with stream }

def withTransport (office : Office) (transport : Transport) : Office :=
  office.withSession { office.session with transport }

def release (office : Office) (reservation : Reservation) : Office :=
  ⟨office.session.dropReservation reservation, office.held.filter (· ≠ reservation)⟩

/-- An action and what happens in it; there is nothing where it has to wait or is not
possible. Framing waits until no flush is under way. -/
def step (office : Office) : Action → Option (Office × List Event)
  | .listen requests =>
    match office.session.listen requests with
    | (.ok (), session) => some (office.withSession session, [.started requests])
    | (.error _, session) => some (office.withSession session, [])
  | .tick =>
    match office.session.receiving with
    | .running loop =>
      (office.session.advance loop).map fun session =>
        (office.withSession session, ticking office.session loop ++ ending session)
    | _ => none
  | .add message =>
    if office.session.flight?.isNone then
      some (office.withSession (office.session.add message).session,
        [framing office.session .plain message])
    else none
  | .send message =>
    if office.session.flight?.isNone then
      some (office.withSession (office.session.beginSend message).session,
        sending office.session .plain message)
    else none
  | .flush =>
    if office.session.flight?.isNone then
      let (progress, session) := office.session.launch ⟨0, none⟩
      some (office.withSession session, landing none progress)
    else none
  | .reserve message =>
    if office.session.flight?.isNone then
      let call := office.session.beginReserve message
      some (⟨call.session, handed call.outcome ++ office.held⟩,
        reserving office.session message)
    else none
  | .write =>
    match office.session.flight? with
    | some flight =>
      if isAsking office.session then none
      else
        let (progress, session) := office.session.push flight
        some (⟨session, handed progress ++ office.held⟩, writing office.session flight)
    | none => none
  | .finish task now =>
    match task.reservation?, task.result? office.session.ledger now with
    | some reservation, some result =>
      if reservation ∈ office.held then
        some (office.release reservation, [.finished task result, .released reservation])
      else none
    | _, _ => none
  | .drop reservation =>
    if reservation ∈ office.held then
      some (office.release reservation, [.released reservation])
    else none
  | .close =>
    some (office.withSession office.session.close,
      if office.session.closed then [] else [.closed])
  | .arrive arrival =>
    (office.session.transport.deliver arrival).map fun transport =>
      (office.withTransport transport, [])
  | .hangUp => some (office.withTransport { office.session.transport with gone := true }, [])
  | .rule rule =>
    some (office.withTransport { office.session.transport with
      rules := office.session.transport.rules ++ [rule] }, [])
  | .read =>
    office.session.stream.next?.map fun (message, stream) =>
      (office.withStream stream, [.read message])
  | .closeStream => some (office.withStream office.session.stream.close, [])
  | .dropStream => some (office.withStream office.session.stream.drop, [])

/-- Actions one after another, and all that happens in them. -/
def run (office : Office) : List Action → Option (Office × List Event)
  | [] => some (office, [])
  | action :: actions =>
    (office.step action).bind fun (next, events) =>
      (run next actions).map fun (last, later) => (last, events ++ later)

/-- A law of each event and what came before it. -/
def Each (law : List Event → Event → Prop) (trace : List Event) : Prop :=
  ∀ past event later, trace = past ++ event :: later → law past event

end Office
end RouteNetlink
