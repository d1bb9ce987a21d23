import RouteNetlink.Message.Basic

/-! The stream of received messages: a bounded queue between the receive loop and one
reader. -/
namespace RouteNetlink

/-- The end of the stream that messages go into. -/
inductive Outlet where
  /-- With the session, until a receive loop takes it. -/
  | kept
  | lent
  | gone
  deriving DecidableEq

inductive Reader where
  | reading
  | closed
  | dropped
  deriving DecidableEq

structure Stream where
  depth : Nat
  queue : List Message
  outlet : Outlet
  reader : Reader
  deriving DecidableEq

namespace Stream

def new (depth : Nat) : Stream := ⟨depth, [], .kept, .reading⟩

/-- Puts a message into the stream, if there is room. A reader that wants no more loses
it. -/
def offer (stream : Stream) (message : Message) : Option Stream :=
  if stream.reader ≠ .reading then some stream
  else if stream.queue.length < stream.depth then
    some { stream with queue := stream.queue ++ [message] }
  else none

def next? (stream : Stream) : Option (Message × Stream) :=
  match stream.queue with
  | message :: queue => some (message, { stream with queue })
  | [] => none

/-- Whether nothing will ever come. -/
def isEnded (stream : Stream) : Bool :=
  stream.queue.isEmpty && (stream.outlet = .gone || stream.reader ≠ .reading)

def close (stream : Stream) : Stream :=
  if stream.reader = .reading then { stream with reader := .closed } else stream

def drop (stream : Stream) : Stream := { stream with reader := .dropped, queue := [] }

def shut (stream : Stream) : Stream := { stream with outlet := .gone }

@[simp] theorem outlet_shut (stream : Stream) : stream.shut.outlet = .gone := rfl

@[simp] theorem queue_shut (stream : Stream) : stream.shut.queue = stream.queue := rfl

/-- A message is queued while the reader reads and there is room, and lost once it does not. -/
theorem offer_eq_some_iff {stream next : Stream} {message : Message} :
    stream.offer message = some next ↔
      (stream.reader ≠ .reading ∧ next = stream) ∨
      (stream.reader = .reading ∧ stream.queue.length < stream.depth ∧
        next = { stream with queue := stream.queue ++ [message] }) := by
  unfold offer
  by_cases hr : stream.reader = .reading <;> by_cases hd : stream.queue.length < stream.depth <;>
    simp [hr, hd, eq_comm]

/-- Only a reader that is behind by the depth of the stream keeps a message out. -/
theorem offer_eq_none_iff {stream : Stream} {message : Message} :
    stream.offer message = none ↔
      stream.reader = .reading ∧ stream.depth ≤ stream.queue.length := by
  unfold offer
  by_cases hr : stream.reader = .reading <;> simp [hr]

theorem next?_eq_some_iff {stream next : Stream} {message : Message} :
    stream.next? = some (message, next) ↔
      stream.queue = message :: next.queue ∧ next = { stream with queue := next.queue } := by
  obtain ⟨depth, queue, outlet, reader⟩ := stream
  obtain ⟨depth', queue', outlet', reader'⟩ := next
  cases queue <;> simp [next?, eq_comm, and_comm, and_left_comm, and_assoc]

end Stream
end RouteNetlink
