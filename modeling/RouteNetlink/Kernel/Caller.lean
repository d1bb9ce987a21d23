import RouteNetlink.Kernel.Conversation

/-! What the caller of a conversation does, one call at a time. A call that does not have to
wait leaves the receive loops where they are. -/
namespace RouteNetlink
namespace Conversation

/-- Asks for a receive loop. An earlier one goes on, but nobody learns how it ends. -/
def listen (conversation : Conversation) (requests : List DumpRequest) : Conversation :=
  { conversation with loops := conversation.loops ++ [.asked requests], joinable := true }

def lastResult? (conversation : Conversation) : Option TaskResult :=
  conversation.loops.getLast?.bind (·.result?)

/-- Waits for the end of the last loop, where that has not been done before. -/
def join? (conversation : Conversation) : Option (Option TaskResult × Conversation) :=
  if conversation.joinable then
    let conversation := conversation.waitFor (·.lastResult?.isSome) patience
    some (conversation.lastResult?, { conversation with joinable := false })
  else none

def add (conversation : Conversation) (message : Message) :
    Except Fault UInt32 × Conversation :=
  let conversation := conversation.acquire
  let call := conversation.session.add message
  (call.outcome, { conversation with session := call.session })

def flush (conversation : Conversation) : Except Fault Receipt × Conversation :=
  let conversation := conversation.acquire
  let (progress, session) := conversation.session.launch ⟨0, none⟩
  fly { conversation with session } progress

def send (conversation : Conversation) (message : Message) :
    Except Fault Receipt × Message × Conversation :=
  conversation.call (·.beginSend message)

def keep (conversation : Conversation) (name : String) (reservation : Reservation) :
    Conversation :=
  let session := conversation.session
  { conversation with
    session := (conversation.reservations.lookup name).elim session session.dropReservation
    reservations := conversation.reservations.keep name reservation }

def reserve (conversation : Conversation) (name : String) (message : Message) :
    Except Fault UInt32 × Conversation :=
  let (result, _, conversation) := conversation.call (·.beginReserve message)
  (result.map (·.sequence),
    (result.toOption.bind (·.reservation?)).elim conversation (conversation.keep name))

/-- Waits for the reply of a reservation, which ends with that. -/
def redeem (conversation : Conversation) (reservation : Reservation) :
    Option (Except Fault Reply) × Conversation :=
  let outcome? (conversation : Conversation) :=
    reservation.outcome? conversation.session.ledger 0 none
  let conversation := conversation.waitFor (fun c => (outcome? c).isSome) patience
  (outcome? conversation,
    { conversation with session := conversation.session.dropReservation reservation })

def wait? (conversation : Conversation) (name : String) :
    Option (Option TaskResult × Conversation) :=
  (conversation.reservations.lookup name).map fun reservation =>
    let reservations := conversation.reservations.forget name
    let (outcome, conversation) := redeem { conversation with reservations } reservation
    (outcome.map .ofReply, conversation)

def acknowledge (conversation : Conversation) (message : Message) :
    Option TaskResult × Conversation :=
  match conversation.call (·.beginReserve message) with
  | (.error fault, _, conversation) => (some (.failed fault), conversation)
  | (.ok receipt, _, conversation) =>
    receipt.reservation?.elim (none, conversation) fun reservation =>
      let (outcome, conversation) := conversation.redeem reservation
      (outcome.map .ofAcknowledgement, conversation)

def awaitMessage (conversation : Conversation) : Conversation :=
  let settled (stream : Stream) : Bool := !stream.queue.isEmpty || stream.isEnded
  conversation.waitFor (fun c => settled c.session.stream) patience

def nextMany (conversation : Conversation) : Nat → List Message × Conversation
  | 0 => ([], conversation)
  | n + 1 =>
    let conversation := conversation.awaitMessage
    match conversation.session.stream.next? with
    | none => ([], conversation)
    | some (message, stream) =>
      let session := { conversation.session with stream }
      let (messages, conversation) := nextMany { conversation with session } n
      (message :: messages, conversation)

def close (conversation : Conversation) : Conversation :=
  { conversation with session := conversation.session.close }

def deliver (conversation : Conversation) (bytes : List UInt8) : Conversation :=
  let session := conversation.session
  (session.transport.deliver (.datagram bytes none)).elim conversation fun transport =>
    { conversation with session := { session with transport } }

end Conversation
end RouteNetlink
