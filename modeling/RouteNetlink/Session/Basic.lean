import RouteNetlink.Message.ReceiveBuffer
import RouteNetlink.Message.TransmitBuffer
import RouteNetlink.Session.Ledger
import RouteNetlink.Session.Settings
import RouteNetlink.Session.Stream
import RouteNetlink.Session.Transport

/-! The state of a session: what is framed but not sent, who awaits a reply, and how far
the receive loop has come. -/
namespace RouteNetlink

/-- What a caller holds once its request is sent. -/
structure Receipt where
  /-- Zero where nothing was framed. -/
  sequence : UInt32
  reservation? : Option Reservation
  deriving DecidableEq

/-- A flush under way. Nothing else is framed or sent until it ends. -/
structure Flight where
  receipt : Receipt
  left : List UInt8
  deriving DecidableEq

/-- A dump that is asked for, how often it has been, and what is to be dumped after it. -/
structure DumpTurn where
  request : DumpRequest
  attempt : Nat
  later : List DumpRequest
  deriving DecidableEq

inductive Phase where
  | asking (turn : DumpTurn)
  | sending (turn : DumpTurn)
  | awaiting (turn : DumpTurn) (sequence : UInt32)
  | streaming
  deriving DecidableEq

structure ReceiveLoop where
  phase : Phase
  buffer : ReceiveBuffer
  /-- A message for which the stream had no room yet. -/
  parked? : Option Message
  deriving DecidableEq

inductive Receiving where
  | idle
  | running (loop : ReceiveLoop)
  | stopped (result : Except Fault Unit)

structure Session where
  settings : Settings
  port : UInt32
  transmit : TransmitBuffer
  ledger : Ledger
  stream : Stream
  transport : Transport
  closed : Bool
  /-- Whether a receive loop was ever started. -/
  listening : Bool
  flight? : Option Flight
  receiving : Receiving

namespace Session

def new (settings : Settings) (port : UInt32) (transport : Transport) : Session where
  settings := settings
  port := port
  transmit := .new port
  ledger := .empty
  stream := .new settings.channelDepth
  transport := transport
  closed := false
  listening := false
  flight? := none
  receiving := .idle

/-- Drops a reservation, answered or not. -/
def dropReservation (session : Session) (reservation : Reservation) : Session :=
  { session with ledger := session.ledger.drop reservation }

/-- Ends the session: no reservation outlives it, and no message follows those queued. -/
def close (session : Session) : Session :=
  if session.closed then session
  else
    { session with
      closed := true
      stream := if session.stream.outlet = .kept then session.stream.shut else session.stream
      ledger := session.ledger.cancelAll }

/-- What becomes of a session that nobody holds any more. -/
def discard (session : Session) : Session :=
  { session with stream := session.stream.shut, ledger := session.ledger.cancelAll }

def listing (session : Session) : String :=
  Listing.record "Connection"
    [("port_id", toString session.port), ("listening", toString session.listening),
     ("closed", toString session.closed), ("pending", toString session.ledger.size)]

@[simp] theorem close_close (session : Session) : session.close.close = session.close := by
  unfold close
  split <;> simp_all

end Session
end RouteNetlink
