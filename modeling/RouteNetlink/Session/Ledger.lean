import RouteNetlink.Message.Basic

/-! Reservations of replies. A reply goes to whoever reserved the sequence number of the
request that it echoes. A number is reserved once at a time; tokens tell apart those who
reserve it one after another. -/
namespace RouteNetlink

structure Reservation where
  sequence : UInt32
  token : Nat
  deriving DecidableEq

structure Ledger where
  /-- The reservations neither answered nor cancelled. -/
  waiters : List Reservation
  /-- Delivered replies by token, until their reservation is dropped. -/
  answers : List (Nat × Reply)
  nextToken : Nat
  /-- Whether everything was cancelled, which holds for whatever comes later too. -/
  closed : Bool
  deriving DecidableEq

inductive Standing where
  | awaiting
  | answered (reply : Reply)
  | cancelled
  deriving DecidableEq

namespace Ledger

def empty : Ledger := ⟨[], [], 0, false⟩

def size (ledger : Ledger) : Nat := ledger.waiters.length

def isEmpty (ledger : Ledger) : Bool := ledger.waiters.isEmpty

/-- Who awaits a reply to a sequence number. -/
def waiter? (ledger : Ledger) (sequence : UInt32) : Option Reservation :=
  ledger.waiters.find? (·.sequence = sequence)

def register (ledger : Ledger) (sequence : UInt32) : Except Fault (Reservation × Ledger) :=
  if ledger.closed then .error .closed
  else if (ledger.waiter? sequence).isSome then
    .error (.invalidMessage (.sequenceTaken sequence))
  else
    let reservation : Reservation := ⟨sequence, ledger.nextToken⟩
    .ok (reservation,
      { ledger with
        waiters := reservation :: ledger.waiters
        nextToken := ledger.nextToken + 1 })

/-- Delivers a reply, unless nobody awaits it. -/
def resolve (ledger : Ledger) (reply : Reply) : Option Ledger :=
  (ledger.waiter? reply.request.sequence).map fun reservation =>
    { ledger with
      waiters := ledger.waiters.erase reservation
      answers := (reservation.token, reply) :: ledger.answers }

def drop (ledger : Ledger) (reservation : Reservation) : Ledger :=
  { ledger with
    waiters := ledger.waiters.erase reservation
    answers := ledger.answers.filter fun answer => answer.1 ≠ reservation.token }

def cancelAll (ledger : Ledger) : Ledger := { ledger with waiters := [], closed := true }

def standing (ledger : Ledger) (reservation : Reservation) : Standing :=
  match ledger.answers.lookup reservation.token with
  | some reply => .answered reply
  | none => if reservation ∈ ledger.waiters then .awaiting else .cancelled

@[simp] theorem size_empty : empty.size = 0 := rfl

@[simp] theorem waiters_cancelAll (ledger : Ledger) : ledger.cancelAll.waiters = [] := rfl

@[simp] theorem answers_cancelAll (ledger : Ledger) :
    ledger.cancelAll.answers = ledger.answers := rfl

@[simp] theorem cancelAll_cancelAll (ledger : Ledger) :
    ledger.cancelAll.cancelAll = ledger.cancelAll := rfl

theorem register_of_closed {ledger : Ledger} (h : ledger.closed = true) (sequence : UInt32) :
    ledger.register sequence = .error .closed := by
  simp [register, h]

theorem resolve_eq_none_iff (ledger : Ledger) (reply : Reply) :
    ledger.resolve reply = none ↔
      ∀ reservation ∈ ledger.waiters, reservation.sequence ≠ reply.request.sequence := by
  simp [resolve, waiter?]

end Ledger
end RouteNetlink
