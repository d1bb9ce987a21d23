import RouteNetlink.Message.Decode
import RouteNetlink.Session.Transmit

/-! The receive loop, one step at a time: it asks for one dump after another, then streams
whatever comes. Between two steps anything else may happen to the session. -/
namespace RouteNetlink

namespace Phase

/-- Dumps come in their order; behind the last one all is streamed. -/
def start : List DumpRequest → Phase
  | [] => .streaming
  | request :: later => .asking ⟨request, 1, later⟩

/-- Where the loop stands once a message is in the stream: the end of the awaited dump
leads on to the next. -/
def after (message : Message) : Phase → Phase
  | awaiting turn sequence =>
    if message.body = .done ∧ message.header.sequence = sequence then start turn.later
    else awaiting turn sequence
  | phase => phase

/-- The code with which the awaited dump failed, if the message says so. -/
def failure? (port : UInt32) (message : Message) : Phase → Option (DumpTurn × Int32)
  | awaiting turn sequence =>
    match message.reply? with
    | some reply =>
      if ¬reply.isAck ∧ reply.request.sequence = sequence ∧ reply.request.port = port then
        some (turn, reply.code)
      else none
    | none => none
  | _ => none

end Phase

namespace Session

def resume (session : Session) (loop : ReceiveLoop) : Session :=
  { session with receiving := .running loop }

/-- Ends the receive loop, and with it the stream and all reservations. -/
def stop (session : Session) (result : Except Fault Unit) : Session :=
  { session with
    receiving := .stopped result
    stream := session.stream.shut
    ledger := session.ledger.cancelAll }

/-- Starts the receive loop, once for each session. Placeholders are passed over; without
any request those of the settings are made. -/
def listen (session : Session) (requests : List DumpRequest) : Except Fault Unit × Session :=
  if session.listening then (.error .alreadyListening, session)
  else
    let session := { session with listening := true }
    if session.stream.outlet ≠ .kept then (.error .closed, session)
    else
      let requests := if requests = [] then session.settings.dumps else requests
      let loop : ReceiveLoop := ⟨.start (requests.filter (!·.isNoop)), .empty, none⟩
      (.ok (), resume { session with stream := { session.stream with outlet := .lent } } loop)

/-- Drops the receive loop where it stands: the stream ends, but nothing is cancelled. -/
def abandon (session : Session) : Session :=
  match session.receiving with
  | .running loop =>
    { session with
      receiving := .idle
      stream := session.stream.shut
      flight? :=
        match loop.phase with
        | .sending _ => none
        | _ => session.flight? }
  | _ => session

/-- Decodes a record and marks it with the namespace it came from. What cannot be decoded is
dropped, and an answer to an own request goes to whoever awaits it; all else is handed
back. -/
def dispatch (session : Session) (item : Except Fault (List UInt8))
    (namespaceId? : Option Int32) : Option Message × Session :=
  match item.bind Message.decode with
  | .error _ => (none, session)
  | .ok message =>
    let message := { message with header := { message.header with namespaceId? } }
    match message.reply? with
    | none => (some message, session)
    | some reply =>
      if reply.request.port = session.port then
        match session.ledger.resolve reply with
        | some ledger => (none, { session with ledger })
        | none => (some message, session)
      else (some message, session)

/-- Asks again for a dump that failed, unless that was the last attempt. -/
def retry (session : Session) (loop : ReceiveLoop) (turn : DumpTurn) (code : Int32) : Session :=
  if turn.attempt < session.settings.dumpAttempts then
    session.resume { loop with phase := .asking { turn with attempt := turn.attempt + 1 } }
  else session.stop (.error (.ofCode code))

def take (session : Session) (loop : ReceiveLoop) (item : Except Fault (List UInt8))
    (rest : ReceiveBuffer) : Session :=
  let loop := { loop with buffer := rest }
  let (message?, session) := session.dispatch item rest.namespaceId?
  match message? with
  | none => session.resume loop
  | some message =>
    match loop.phase.failure? session.port message with
    | some (turn, code) => session.retry loop turn code
    | none => session.resume { loop with parked? := some message }

def fill (session : Session) (loop : ReceiveLoop) : Option Session :=
  if session.closed then some (session.stop (.ok ()))
  else
    session.transport.receive?.map fun (arrival, transport) =>
      let session := { session with transport }
      match arrival with
      | .failure code => session.stop (.error (.io (.os code)))
      | .datagram [] _ => session.stop (.error (.io .endOfStream))
      | .datagram bs namespaceId? =>
        session.resume { loop with buffer := ⟨loop.buffer.bytes ++ bs, namespaceId?⟩ }

/-- Moves the parked message into the stream, if there is room. -/
def forward (session : Session) (loop : ReceiveLoop) (message : Message) : Option Session :=
  if session.closed then some (session.stop (.ok ()))
  else
    (session.stream.offer message).map fun stream =>
      resume { session with stream }
        { loop with phase := loop.phase.after message, parked? := none }

/-- Goes on with the flush of the loop's own request. -/
def depart (session : Session) (loop : ReceiveLoop) (turn : DumpTurn) : Progress → Session
  | .flying _ => session.resume { loop with phase := .sending turn }
  | .landed (.ok receipt) =>
    session.resume { loop with phase := .awaiting turn receipt.sequence }
  | .landed (.error .closed) => session.stop (.ok ())
  | .landed (.error fault) => session.stop (.error fault)

/-- Begins to ask for a dump, once no other flush is under way. -/
def ask (session : Session) (loop : ReceiveLoop) (turn : DumpTurn) : Option Session :=
  match session.flight? with
  | some _ => none
  | none =>
    let call := session.beginSend (.dump turn.request.kind turn.request.family)
    some (call.session.depart loop turn call.outcome)

/-- One step of a running loop; there is none while it has to wait. -/
def advance (session : Session) (loop : ReceiveLoop) : Option Session :=
  match loop.parked? with
  | some message => session.forward loop message
  | none =>
    match loop.phase with
    | .asking turn => session.ask loop turn
    | .sending turn =>
      session.flight?.map fun flight =>
        let (progress, session) := session.push flight
        session.depart loop turn progress
    | _ =>
      match loop.buffer.next? with
      | some (item, rest) => some (session.take loop item rest)
      | none => session.fill loop

def tick (session : Session) : Option Session :=
  match session.receiving with
  | .running loop => session.advance loop
  | _ => none

end Session
end RouteNetlink
