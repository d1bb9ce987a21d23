import RouteNetlink.Message.Encode
import RouteNetlink.Session.Basic

/-! Sending requests. Framing, registering the reply and starting the flush happen as one
step, so that a reply cannot overtake its reservation; the flush then goes on write by
write. -/
namespace RouteNetlink

/-- What a call on a message gives: the message comes back as it was stamped, whether the
call succeeds or not. -/
structure Call (α : Type) where
  outcome : α
  message : Message
  session : Session

/-- How a flush stands: it goes on, or it has a result. -/
inductive Progress where
  | flying (flight : Flight)
  | landed (result : Except Fault Receipt)

namespace Progress

/-- A bound on the writes still to come. -/
def left : Progress → Nat
  | flying flight => flight.left.length + 1
  | landed _ => 0

end Progress

namespace Session

/-- Frames a message into the transmit buffer without sending it. -/
def add (session : Session) (message : Message) : Call (Except Fault UInt32) :=
  let framing := message.frame session.transmit
  ⟨framing.fault?.elim (.ok framing.message.header.sequence) .error, framing.message,
    { session with transmit := framing.buffer }⟩

/-- Ends a flush. Whatever was not sent is lost, and a failed call keeps no reservation. -/
def land (session : Session) (receipt : Receipt) (result : Except Fault Unit) :
    Progress × Session :=
  let session := { session with transmit := session.transmit.clear, flight? := none }
  match result with
  | .ok () => (.landed (.ok receipt), session)
  | .error fault =>
    (.landed (.error fault), receipt.reservation?.elim session session.dropReservation)

def launch (session : Session) (receipt : Receipt) : Progress × Session :=
  if session.closed then session.land receipt (.error .closed)
  else if session.transmit.isEmpty then session.land receipt (.ok ())
  else
    let flight : Flight := ⟨receipt, session.transmit.bytes⟩
    (.flying flight, { session with flight? := some flight })

/-- One write of a flush. -/
def push (session : Session) (flight : Flight) : Progress × Session :=
  let (accepted, transport) := session.transport.send flight.left
  let session := { session with transport }
  match accepted with
  | .error code => session.land flight.receipt (.error (.io (.os code)))
  | .ok 0 => session.land flight.receipt (.error (.io .acceptedNothing))
  | .ok (n + 1) =>
    match flight.left.drop (n + 1) with
    | [] => session.land flight.receipt (.ok ())
    | left =>
      let flight := { flight with left }
      (.flying flight, { session with flight? := some flight })

/-- Frames a message and starts to send it with all that was framed before. -/
def beginSend (session : Session) (message : Message) : Call Progress :=
  let call := session.add message
  match call.outcome with
  | .error fault => ⟨.landed (.error fault), call.message, call.session⟩
  | .ok sequence =>
    let (progress, session) := call.session.launch ⟨sequence, none⟩
    ⟨progress, call.message, session⟩

/-- Asks for an acknowledgement, under a sequence number of its own. -/
def requestAck (message : Message) : Message :=
  { message with
    header :=
      { message.header with
        flags := message.header.flags ||| HeaderFlag.acknowledge
        sequence := 0 } }

/-- Frames a message, reserves its reply, and starts to send. Where the reply cannot be
reserved, all that was framed is dropped with the message. -/
def beginReserve (session : Session) (message : Message) : Call Progress :=
  let call := session.add (requestAck message)
  match call.outcome with
  | .error fault => ⟨.landed (.error fault), call.message, call.session⟩
  | .ok sequence =>
    match call.session.ledger.register sequence with
    | .error fault =>
      ⟨.landed (.error fault), call.message,
        { call.session with transmit := call.session.transmit.clear }⟩
    | .ok (reservation, ledger) =>
      let (progress, session) :=
        launch { call.session with ledger } ⟨sequence, some reservation⟩
      ⟨progress, call.message, session⟩

@[simp] theorem left_land (session : Session) (receipt : Receipt) (result : Except Fault Unit) :
    (session.land receipt result).1.left = 0 := by
  cases result <;> rfl

theorem left_land_lt (session : Session) (receipt : Receipt) (result : Except Fault Unit)
    (n : Nat) : (session.land receipt result).1.left < n + 1 := by
  rw [left_land]
  exact Nat.succ_pos n

theorem left_push (session : Session) (flight : Flight) :
    (session.push flight).1.left < (Progress.flying flight).left := by
  unfold push
  split
  rename_i accepted transport hs
  dsimp only
  split
  · exact left_land_lt ..
  · exact left_land_lt ..
  · rename_i n
    have hn := Transport.accepted_le hs
    split
    · exact left_land_lt ..
    · simp only [Progress.left, List.length_drop]
      omega

def fly (session : Session) (progress : Progress) : Except Fault Receipt × Session :=
  match progress with
  | .landed result => (result, session)
  | .flying flight =>
    have := session.left_push flight
    fly (session.push flight).2 (session.push flight).1
termination_by progress.left

def send (session : Session) (message : Message) : Call (Except Fault Receipt) :=
  let call := session.beginSend message
  let (result, session) := call.session.fly call.outcome
  ⟨result, call.message, session⟩

def reserve (session : Session) (message : Message) : Call (Except Fault Receipt) :=
  let call := session.beginReserve message
  let (result, session) := call.session.fly call.outcome
  ⟨result, call.message, session⟩

def flush (session : Session) : Except Fault Receipt × Session :=
  let (progress, session) := session.launch ⟨0, none⟩
  session.fly progress

end Session
end RouteNetlink
