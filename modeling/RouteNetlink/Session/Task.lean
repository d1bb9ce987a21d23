import RouteNetlink.Named
import RouteNetlink.Session.Ledger

/-! Tasks around a session: reservations not yet waited for, waits, and what has come of
them. -/
namespace RouteNetlink

inductive TaskResult where
  | replied (reply : Reply)
  | acknowledged
  | stopped
  | failed (fault : Fault)
  deriving DecidableEq

inductive Task where
  | reserved (reservation : Reservation)
  | waiting (reservation : Reservation) (deadline? : Option Nat)
  | acknowledging (reservation : Reservation) (deadline : Nat)
  | listening
  | finished (result : TaskResult)
  deriving DecidableEq

namespace Reservation

/-- What waiting for a reply gives at a moment, if it is over. A reply that is there wins
over the deadline. -/
def outcome? (ledger : Ledger) (now : Nat) (deadline? : Option Nat)
    (reservation : Reservation) : Option (Except Fault Reply) :=
  match ledger.standing reservation with
  | .answered reply => some (.ok reply)
  | .cancelled => some (.error .cancelled)
  | .awaiting =>
    match deadline? with
    | some deadline => if deadline < now then some (.error .timeout) else none
    | none => none

end Reservation

namespace TaskResult

def ofReply : Except Fault Reply → TaskResult
  | .ok reply => replied reply
  | .error fault => failed fault

/-- What the sender of a request learns from the reply. -/
def ofAcknowledgement (outcome : Except Fault Reply) : TaskResult :=
  match outcome.bind Reply.result with
  | .ok () => acknowledged
  | .error fault => failed fault

def ofListening : Except Fault Unit → TaskResult
  | .ok () => stopped
  | .error fault => failed fault

end TaskResult

namespace Task

def reservation? : Task → Option Reservation
  | reserved reservation => some reservation
  | waiting reservation _ => some reservation
  | acknowledging reservation _ => some reservation
  | listening => none
  | finished _ => none

def result? (ledger : Ledger) (now : Nat) : Task → Option TaskResult
  | waiting reservation deadline? =>
    (reservation.outcome? ledger now deadline?).map .ofReply
  | acknowledging reservation deadline =>
    (reservation.outcome? ledger now (some deadline)).map .ofAcknowledgement
  | _ => none

/-- Whether the task works on the session itself. -/
def usesSession : Task → Bool
  | acknowledging .. => true
  | listening => true
  | _ => false

end Task

namespace Ledger

def release (ledger : Ledger) (task : Task) : Ledger := task.reservation?.elim ledger ledger.drop

def finishWaits (ledger : Ledger) (now : Nat) : Named Task → Ledger × Named Task
  | [] => (ledger, [])
  | (name, task) :: tasks =>
    match task.result? ledger now with
    | none =>
      let (ledger, tasks) := finishWaits ledger now tasks
      (ledger, (name, task) :: tasks)
    | some result =>
      let (ledger, tasks) := finishWaits (ledger.release task) now tasks
      (ledger, (name, .finished result) :: tasks)

end Ledger
end RouteNetlink
