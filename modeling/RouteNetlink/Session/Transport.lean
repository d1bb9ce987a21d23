import RouteNetlink.Fault.OsError

/-! The socket of a session, as far as a session can tell: what arrives, in order, and how
much of what is sent the socket accepts. -/
namespace RouteNetlink

/-- What one read gives. A datagram without bytes is the end of the stream. -/
inductive Arrival where
  | datagram (bytes : List UInt8) (namespaceId? : Option Int32)
  | failure (code : Int32)
  deriving DecidableEq

/-- What a socket does with one write. -/
inductive SendRule where
  | accept (limit : Nat)
  | fail (code : Int32)
  deriving DecidableEq

structure Transport where
  arrivals : List Arrival
  /-- Whether the stream ends behind the arrivals. -/
  gone : Bool
  maxWrite? : Option Nat
  rules : List SendRule
  /-- The accepted pieces, the latest first. -/
  sent : List (List UInt8)
  deriving DecidableEq

namespace Transport

def new (maxWrite? : Option Nat) : Transport := ⟨[], false, maxWrite?, [], []⟩

def accepted (transport : Transport) : List UInt8 := transport.sent.reverse.flatten

/-- One write: how many bytes were accepted, or the system's error number. -/
def send (transport : Transport) (bs : List UInt8) : Except Int32 Nat × Transport :=
  match transport.rules with
  | .fail code :: rules => (.error code, { transport with rules })
  | .accept limit :: rules =>
    let piece := bs.take limit
    (.ok piece.length, { transport with rules, sent := piece :: transport.sent })
  | [] =>
    let piece := transport.maxWrite?.elim bs bs.take
    (.ok piece.length, { transport with sent := piece :: transport.sent })

theorem accepted_le {transport after : Transport} {bs : List UInt8} {n : Nat}
    (h : transport.send bs = (.ok n, after)) : n ≤ bs.length := by
  unfold send at h
  split at h
  · cases h
  · cases h
    simp only [List.length_take]
    omega
  · cases h
    cases transport.maxWrite? <;> simp only [Option.elim, List.length_take] <;> omega

@[simp] theorem arrivals_send (transport : Transport) (bs : List UInt8) :
    (transport.send bs).2.arrivals = transport.arrivals := by
  unfold send
  split <;> rfl

def receive? (transport : Transport) : Option (Arrival × Transport) :=
  match transport.arrivals with
  | arrival :: arrivals => some (arrival, { transport with arrivals })
  | [] => if transport.gone then some (.datagram [] none, transport) else none

/-- Queues something to be read, unless the stream has ended. -/
def deliver (transport : Transport) (arrival : Arrival) : Option Transport :=
  if transport.gone then none
  else some { transport with arrivals := transport.arrivals ++ [arrival] }

end Transport
end RouteNetlink
