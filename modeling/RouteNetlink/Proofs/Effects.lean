import RouteNetlink.Proofs.Office
import RouteNetlink.Proofs.Record

/-! The effects that actions are made of. An action frames, registers, writes or lands one
after the other; each effect changes little, and laws of whole runs follow from laws of
effects. -/
namespace RouteNetlink

/-- Whether the fault is the answer of the kernel to a request. -/
def Fault.isKernel : Fault → Bool
  | kernel .. => true
  | _ => false

/-- What there is to be dumped: placeholders ask for nothing. -/
def Settings.dumpsFor (settings : Settings) (requests : List DumpRequest) : List DumpRequest :=
  (if requests = [] then settings.dumps else requests).filter (!·.isNoop)

namespace TransmitBuffer

/-- The buffer with one more message. -/
def holding (buffer : TransmitBuffer) (message : Message) : TransmitBuffer :=
  { buffer.counted message.header with
    bytes := buffer.bytes ++ (message.stamped buffer).padded }

theorem bytes_holding_ne_nil (buffer : TransmitBuffer) (message : Message) :
    (buffer.holding message).bytes ≠ [] :=
  fun h => (message.stamped buffer).padded_ne_nil (List.append_eq_nil_iff.1 h).2

/-- What is left where a message was refused. A number may be used up. -/
structure Spared (before after : TransmitBuffer) : Prop where
  bytes : after.bytes = before.bytes
  port : after.port = before.port
  counter : after.nextSequence = before.nextSequence ∨
    after.nextSequence = successor before.nextSequence

theorem counted_counter (buffer : TransmitBuffer) (header : Header) :
    (buffer.counted header).nextSequence = buffer.nextSequence ∨
      (buffer.counted header).nextSequence = successor buffer.nextSequence := by
  unfold counted
  split
  · exact .inr rfl
  · exact .inl rfl

@[simp] theorem counted_port (buffer : TransmitBuffer) (header : Header) :
    (buffer.counted header).port = buffer.port := by
  unfold counted
  split <;> rfl

end TransmitBuffer

namespace Message

variable {message : Message}

theorem frame_of_fits (hf : message.body.fits = true)
    (hs : Header.size + message.body.size < UInt32.size) (buffer : TransmitBuffer) :
    message.frame buffer = ⟨message.stamped buffer, buffer.holding message, none⟩ := by
  have ha := appendTo_of_fits hf hs buffer
  exact (frame_of_ok (by rw [ha])).trans ha

/-- An attribute that is too long is found when the header is stamped already. -/
theorem frame_of_overlong (hf : message.body.fits = false)
    (hs : Header.size + message.body.size < UInt32.size) (buffer : TransmitBuffer) :
    ∃ kind size, message.frame buffer = ⟨message.stamped buffer, buffer.counted message.header,
      some (.invalidAttribute (.tooLong kind size))⟩ := by
  obtain ⟨kind, size, he⟩ := Body.encode_overlong hf
  refine ⟨kind, size, ?_⟩
  have htake (more : List UInt8) : (buffer.bytes ++ more).take buffer.size = buffer.bytes :=
    List.take_left' rfl
  have hbytes : { buffer.counted message.header with bytes := buffer.bytes } =
      buffer.counted message.header := by
    rw [← TransmitBuffer.counted_bytes buffer message.header]
  simp only [frame, appendTo, TransmitBuffer.stamp_of_short hs, he, TransmitBuffer.truncate,
    TransmitBuffer.append, TransmitBuffer.counted_bytes, htake, hbytes]
  rfl

/-- A record that is too long is refused before anything is done. -/
theorem frame_of_long (hl : UInt32.size ≤ Header.size + message.body.size)
    (buffer : TransmitBuffer) : message.frame buffer =
      ⟨message, buffer, some (.invalidMessage (.tooLong (Header.size + message.body.size)))⟩ := by
  have htake : buffer.bytes.take buffer.size = buffer.bytes := List.take_length
  simp only [frame, appendTo, TransmitBuffer.stamp_of_long hl, TransmitBuffer.truncate, htake]

/-- A message is framed as it is stamped, or refused without a trace in the bytes. -/
theorem frame_cases (message : Message) (buffer : TransmitBuffer) :
    message.frame buffer = ⟨message.stamped buffer, buffer.holding message, none⟩ ∨
      ∃ fault, (message.frame buffer).fault? = some fault ∧ fault.isKernel = false ∧
        buffer.Spared (message.frame buffer).buffer := by
  by_cases hs : Header.size + message.body.size < UInt32.size
  · cases hf : message.body.fits with
    | true => exact .inl (frame_of_fits hf hs buffer)
    | false =>
      obtain ⟨kind, size, h⟩ := frame_of_overlong hf hs buffer
      rw [h]
      exact .inr ⟨_, rfl, rfl, buffer.counted_bytes _, buffer.counted_port _,
        buffer.counted_counter _⟩
  · rw [frame_of_long (Nat.not_lt.1 hs)]
    exact .inr ⟨_, rfl, rfl, rfl, rfl, .inl rfl⟩

/-- A request for a dump always fits. -/
theorem frame_dump (kind : RecordKind) (family : Family) (buffer : TransmitBuffer) :
    (dump kind family).frame buffer =
      ⟨(dump kind family).stamped buffer, buffer.holding (dump kind family), none⟩ := by
  have hs : Header.size + (dump kind family).body.size < UInt32.size :=
    show Header.size + 1 < UInt32.size by decide
  exact frame_of_fits rfl hs buffer

end Message

namespace Office

/-- A receive loop that is about to take a record or to read. -/
structure Ready (session : Session) (loop : ReceiveLoop) : Prop where
  running : session.receiving = .running loop
  unparked : loop.parked? = none
  unasking : ∀ turn, loop.phase ≠ .asking turn
  unsending : ∀ turn, loop.phase ≠ .sending turn

/-- The receive loop is not amid a flush of its own. -/
def Apart (session : Session) : Prop :=
  ∀ loop turn, session.receiving = .running loop → loop.phase ≠ .sending turn

/-- What one effect changes, and what happens in it. Callers hand in only certain messages. -/
inductive Effect (given : Message → Prop) : Office → List Event → Office → Prop where
  | arrange {session : Session} {held : List Reservation} (transport : Transport)
      (ht : transport.sent = session.transport.sent) :
    Effect given ⟨session, held⟩ [] ⟨{ session with transport }, held⟩
  | lapse {session : Session} {held : List Reservation} :
    Effect given ⟨session, held⟩ [] ⟨{ session with listening := true }, held⟩
  | start {session : Session} {held : List Reservation} (requests : List DumpRequest)
      (hl : session.listening = false) (hi : session.receiving = .idle)
      (ho : session.stream.outlet = .kept) :
    Effect given ⟨session, held⟩ [.started requests]
      ⟨{ session with
          listening := true
          stream := { session.stream with outlet := .lent }
          receiving :=
            .running ⟨.start (session.settings.dumpsFor requests), .empty, none⟩ }, held⟩
  | frame {session : Session} {held : List Reservation} {message : Message}
      (hf : session.flight? = none) (hg : given message) :
    Effect given ⟨session, held⟩ [.framed .plain (message.stamped session.transmit)]
      ⟨{ session with transmit := session.transmit.holding message }, held⟩
  | refuse {session : Session} {held : List Reservation} {fault : Fault}
      {buffer : TransmitBuffer} (hf : session.flight? = none) (hk : fault.isKernel = false)
      (hb : session.transmit.Spared buffer) :
    Effect given ⟨session, held⟩ [.refused fault]
      ⟨{ session with transmit := buffer }, held⟩
  | reserve {session : Session} {held : List Reservation} {message : Message}
      {reservation : Reservation} {ledger : Ledger} (hf : session.flight? = none)
      (hs : message.header.sequence = 0)
      (hr : session.ledger.register (message.stamped session.transmit).header.sequence =
        .ok (reservation, ledger)) :
    Effect given ⟨session, held⟩
      [.framed .reservation (message.stamped session.transmit),
        .reserved reservation (message.stamped session.transmit).header]
      ⟨{ session with
          transmit := session.transmit.holding message
          ledger := ledger
          flight? := some ⟨⟨(message.stamped session.transmit).header.sequence,
            some reservation⟩, (session.transmit.holding message).bytes⟩ }, held⟩
  | unreserve {session : Session} {held : List Reservation} {message : Message}
      {fault : Fault} (hf : session.flight? = none) (hs : message.header.sequence = 0)
      (hk : fault.isKernel = false)
      (hr : session.ledger.register (message.stamped session.transmit).header.sequence =
        .error fault) :
    Effect given ⟨session, held⟩
      [.framed .reservation (message.stamped session.transmit), .cleared, .failed fault]
      ⟨{ session with transmit := (session.transmit.holding message).clear }, held⟩
  | launch {session : Session} {held : List Reservation} (sequence : UInt32)
      (hf : session.flight? = none) :
    Effect given ⟨session, held⟩ []
      ⟨{ session with flight? := some ⟨⟨sequence, none⟩, session.transmit.bytes⟩ }, held⟩
  | write {session : Session} {held : List Reservation} {receipt : Receipt}
      {piece left : List UInt8} {transport : Transport}
      (hf : session.flight? = some ⟨receipt, piece ++ left⟩)
      (ht : transport.sent = piece :: session.transport.sent) :
    Effect given ⟨session, held⟩ [.wrote piece]
      ⟨{ session with transport, flight? := some ⟨receipt, left⟩ }, held⟩
  | land {session : Session} {held : List Reservation} {receipt : Receipt}
      (hf : session.flight? = some ⟨receipt, []⟩) (ha : Apart session) :
    Effect given ⟨session, held⟩ [.cleared]
      ⟨{ session with transmit := session.transmit.clear, flight? := none },
        receipt.reservation?.toList ++ held⟩
  | crash {session : Session} {held : List Reservation} {receipt : Receipt}
      {left : List UInt8} {fault : Fault} (hf : session.flight? = some ⟨receipt, left⟩)
      (ha : Apart session) (hk : fault.isKernel = false) :
    Effect given ⟨session, held⟩
      (.cleared :: ((receipt.reservation?.map Event.released).toList ++ [.failed fault]))
      ⟨{ session with
          transmit := session.transmit.clear
          flight? := none
          ledger := receipt.reservation?.elim session.ledger session.ledger.drop }, held⟩
  | ask {session : Session} {held : List Reservation} {loop : ReceiveLoop} {turn : DumpTurn}
      {message : Message} (hl : session.receiving = .running loop) (hp : loop.parked? = none)
      (ha : loop.phase = .asking turn) (hf : session.flight? = none)
      (hm : message = .dump turn.request.kind turn.request.family) :
    Effect given ⟨session, held⟩
      [.framed (.dump turn) (message.stamped session.transmit)]
      ⟨{ session with
          transmit := session.transmit.holding message
          flight? := some ⟨⟨(message.stamped session.transmit).header.sequence, none⟩,
            (session.transmit.holding message).bytes⟩
          receiving := .running { loop with phase := .sending turn } }, held⟩
  | await {session : Session} {held : List Reservation} {loop : ReceiveLoop}
      {turn : DumpTurn} {sequence : UInt32} (hl : session.receiving = .running loop)
      (ha : loop.phase = .sending turn)
      (hf : session.flight? = some ⟨⟨sequence, none⟩, []⟩) :
    Effect given ⟨session, held⟩ [.cleared]
      ⟨{ session with
          transmit := session.transmit.clear
          flight? := none
          receiving := .running { loop with phase := .awaiting turn sequence } }, held⟩
  | founder {session : Session} {held : List Reservation} {loop : ReceiveLoop}
      {turn : DumpTurn} {flight : Flight} {fault : Fault} {result : Except Fault Unit}
      (hl : session.receiving = .running loop) (hp : loop.parked? = none)
      (ha : loop.phase = .sending turn) (hf : session.flight? = some flight)
      (hk : fault.isKernel = false) (hr : ∀ fault, result = .error fault → fault.isKernel = false) :
    Effect given ⟨session, held⟩ [.cleared, .failed fault, .stopped result]
      ⟨{ session with transmit := session.transmit.clear, flight? := none }.stop result, held⟩
  | drop {session : Session} {held : List Reservation} {loop : ReceiveLoop}
      {item : Except Fault (List UInt8)} {rest : ReceiveBuffer} (hl : Ready session loop)
      (hn : loop.buffer.next? = some (item, rest)) (hh : heard item rest.namespaceId? = none) :
    Effect given ⟨session, held⟩ [.took loop.phase item rest.namespaceId? .dropped]
      ⟨{ session with receiving := .running { loop with buffer := rest } }, held⟩
  | deliver {session : Session} {held : List Reservation} {loop : ReceiveLoop}
      {item : Except Fault (List UInt8)} {rest : ReceiveBuffer} {message : Message}
      {reply : Reply} {reservation : Reservation} {ledger : Ledger} (hl : Ready session loop)
      (hn : loop.buffer.next? = some (item, rest))
      (hh : heard item rest.namespaceId? = some message)
      (ha : answer? session.port message = some reply)
      (hw : session.ledger.waiter? reply.request.sequence = some reservation)
      (hr : session.ledger.resolve reply = some ledger) :
    Effect given ⟨session, held⟩
      [.took loop.phase item rest.namespaceId? (.delivered reservation reply)]
      ⟨{ session with ledger, receiving := .running { loop with buffer := rest } }, held⟩
  | retry {session : Session} {held : List Reservation} {loop : ReceiveLoop}
      {item : Except Fault (List UInt8)} {rest : ReceiveBuffer} {message : Message}
      {reply : Reply} {turn : DumpTurn} {sequence : UInt32} (hl : Ready session loop)
      (hn : loop.buffer.next? = some (item, rest))
      (hh : heard item rest.namespaceId? = some message)
      (ha : answer? session.port message = some reply)
      (hw : session.ledger.waiter? reply.request.sequence = none)
      (hp : loop.phase = .awaiting turn sequence) (hs : reply.request.sequence = sequence)
      (hc : reply.code ≠ 0) (ht : turn.attempt < session.settings.dumpAttempts) :
    Effect given ⟨session, held⟩
      [.took loop.phase item rest.namespaceId? (.failed turn reply.code)]
      ⟨{ session with
          receiving := .running { loop with
            buffer := rest
            phase := .asking { turn with attempt := turn.attempt + 1 } } }, held⟩
  | exhaust {session : Session} {held : List Reservation} {loop : ReceiveLoop}
      {item : Except Fault (List UInt8)} {rest : ReceiveBuffer} {message : Message}
      {reply : Reply} {turn : DumpTurn} {sequence : UInt32} (hl : Ready session loop)
      (hn : loop.buffer.next? = some (item, rest))
      (hh : heard item rest.namespaceId? = some message)
      (ha : answer? session.port message = some reply)
      (hw : session.ledger.waiter? reply.request.sequence = none)
      (hp : loop.phase = .awaiting turn sequence) (hs : reply.request.sequence = sequence)
      (hc : reply.code ≠ 0) (ht : session.settings.dumpAttempts ≤ turn.attempt) :
    Effect given ⟨session, held⟩
      [.took loop.phase item rest.namespaceId? (.failed turn reply.code),
        .stopped (.error (.ofCode reply.code))]
      ⟨session.stop (.error (.ofCode reply.code)), held⟩
  | push {session : Session} {held : List Reservation} {loop : ReceiveLoop}
      {item : Except Fault (List UInt8)} {rest : ReceiveBuffer} {message : Message}
      (hl : Ready session loop) (hn : loop.buffer.next? = some (item, rest))
      (hh : heard item rest.namespaceId? = some message)
      (ha : ∀ reply, answer? session.port message = some reply →
        session.ledger.waiter? reply.request.sequence = none ∧
          ∀ turn sequence, loop.phase = .awaiting turn sequence →
            reply.request.sequence = sequence → reply.code = 0) :
    Effect given ⟨session, held⟩ [.took loop.phase item rest.namespaceId? (.pushed message)]
      ⟨{ session with
          receiving := .running { loop with buffer := rest, parked? := some message } }, held⟩
  | receive {session : Session} {held : List Reservation} {loop : ReceiveLoop}
      {bytes : List UInt8} {namespaceId? : Option Int32} {transport : Transport}
      (hl : Ready session loop) (hn : loop.buffer.next? = none)
      (ht : transport.sent = session.transport.sent) :
    Effect given ⟨session, held⟩ [.received bytes namespaceId?]
      ⟨{ session with
          transport
          receiving := .running { loop with
            buffer := ⟨loop.buffer.bytes ++ bytes, namespaceId?⟩ } }, held⟩
  | forward {session : Session} {held : List Reservation} {loop : ReceiveLoop}
      {message : Message} {stream : Stream} (hl : session.receiving = .running loop)
      (hp : loop.parked? = some message) (hc : session.closed = false)
      (ho : session.stream.offer message = some stream) :
    Effect given ⟨session, held⟩ [.forwarded message]
      ⟨{ session with
          stream
          receiving := .running { loop with
            phase := loop.phase.after message, parked? := none } }, held⟩
  | stop {session : Session} {held : List Reservation} {loop : ReceiveLoop}
      {result : Except Fault Unit} (hl : session.receiving = .running loop)
      (hp : loop.parked? = none ∨ session.closed = true)
      (ha : ∀ turn, loop.phase ≠ .asking turn) (hs : ∀ turn, loop.phase ≠ .sending turn)
      (hr : ∀ fault, result = .error fault → fault.isKernel = false) :
    Effect given ⟨session, held⟩ [.stopped result] ⟨session.stop result, held⟩
  | close {session : Session} {held : List Reservation} (hc : session.closed = false) :
    Effect given ⟨session, held⟩ [.closed] ⟨session.close, held⟩
  | release {office : Office} {reservation : Reservation} (hr : reservation ∈ office.held) :
    Effect given office [.released reservation] (office.release reservation)
  | finish {office : Office} {task : Task} {now : Nat} {result : TaskResult}
      {reservation : Reservation} (ht : task.reservation? = some reservation)
      (hf : task.result? office.session.ledger now = some result)
      (hr : reservation ∈ office.held) :
    Effect given office [.finished task result] office
  | read {session : Session} {held : List Reservation} {message : Message} {stream : Stream}
      (hn : session.stream.next? = some (message, stream)) :
    Effect given ⟨session, held⟩ [.read message] ⟨{ session with stream }, held⟩
  | leave {session : Session} {held : List Reservation} {stream : Stream}
      (hs : stream = session.stream.close ∨ stream = session.stream.drop) :
    Effect given ⟨session, held⟩ [] ⟨{ session with stream }, held⟩

inductive Effects (given : Message → Prop) : Office → List Event → Office → Prop where
  | refl (office : Office) : Effects given office [] office
  | tail {first middle last : Office} {events more : List Event}
      (h : Effects given first events middle) (he : Effect given middle more last) :
    Effects given first (events ++ more) last

variable {given : Message → Prop}

namespace Effects

theorem single {office next : Office} {events : List Event}
    (h : Effect given office events next) : Effects given office events next :=
  .tail (.refl office) h

theorem trans {first middle last : Office} {events more : List Event}
    (h : Effects given first events middle) (h' : Effects given middle more last) :
    Effects given first (events ++ more) last := by
  induction h' with
  | refl => simpa using h
  | tail _ he ih => simpa using ih.tail he

theorem head {first middle last : Office} {events more : List Event}
    (h : Effect given first events middle) (h' : Effects given middle more last) :
    Effects given first (events ++ more) last := (single h).trans h'

/-- A law that every effect keeps holds after all of them. -/
theorem keep {law : List Event → Office → Prop}
    (hkeep : ∀ past office events next, law past office → Effect given office events next →
      law (past ++ events) next)
    {events : List Event} {office next : Office} (h : Effects given office events next)
    (past : List Event) (h0 : law past office) : law (past ++ events) next := by
  induction h with
  | refl => simpa using h0
  | tail _ he ih => simpa using hkeep _ _ _ _ ih he

end Effects

section Each

variable {law : List Event → Event → Prop} {past events : List Event} {event : Event}

theorem each_iff_getElem :
    Each law events ↔ ∀ i : Fin events.length, law (events.take i) events[i] := by
  constructor
  · intro h i
    refine h (events.take i) events[i] (events.drop (i + 1)) ?_
    rw [Fin.getElem_fin, List.getElem_cons_drop, List.take_append_drop]
  · rintro h before event later rfl
    simpa using h ⟨before.length, by simp⟩

instance [∀ past event, Decidable (law past event)] (trace : List Event) :
    Decidable (Each law trace) :=
  decidable_of_iff _ each_iff_getElem.symm

theorem Each.nil : Each law [] := fun past event later h => by simp at h

theorem Each.of_append (h : Each law (past ++ events)) : Each law past := by
  rintro before event later rfl
  exact h before event (later ++ events) (by simp)

theorem Each.append (h : Each law past)
    (he : ∀ earlier event later, events = earlier ++ event :: later →
      law (past ++ earlier) event) : Each law (past ++ events) := by
  intro before event later heq
  rcases List.append_eq_append_iff.1 heq with ⟨middle, rfl, hm⟩ | ⟨middle, rfl, hm⟩
  · exact he middle event later hm
  · cases middle with
    | nil => simpa using he [] event later hm.symm
    | cons first middle =>
      obtain ⟨rfl, -⟩ := List.cons.inj hm
      exact h before event middle rfl

/-- Events whose law holds whatever came before them. -/
theorem Each.append_free (h : Each law past) (he : ∀ event ∈ events, ∀ p, law p event) :
    Each law (past ++ events) :=
  h.append fun _ event _ heq => he event (by simp [heq]) _

/-- One event that matters, at the head of others that do not. -/
theorem Each.append_cons (h : Each law past) (he : law past event)
    (ht : ∀ event ∈ events, ∀ p, law p event) : Each law (past ++ event :: events) := by
  refine h.append fun earlier other later heq => ?_
  cases earlier with
  | nil =>
    obtain ⟨rfl, -⟩ := List.cons.inj heq
    simpa using he
  | cons first earlier =>
    obtain ⟨-, rfl⟩ := List.cons.inj heq
    exact ht other (by simp) _

end Each

/-- What the receive loop keeps to itself: its flush is its own, and it parks a message only
between dumps or in one that it awaits. -/
structure Steady (session : Session) : Prop where
  sending : ∀ loop turn, session.receiving = .running loop → loop.phase = .sending turn →
    ∃ sequence left, session.flight? = some ⟨⟨sequence, none⟩, left⟩
  parked : ∀ loop, session.receiving = .running loop → loop.parked? ≠ none →
    (∀ turn, loop.phase ≠ .asking turn) ∧ ∀ turn, loop.phase ≠ .sending turn
  idle : session.listening = false → session.receiving = .idle

theorem apart_of_isAsking {session : Session} (h : isAsking session = false) :
    Apart session := by
  rintro ⟨phase, buffer, parked?⟩ turn hl rfl
  simp [isAsking, hl] at h

theorem Steady.apart {session : Session} (h : Steady session)
    (hf : session.flight? = none) : Apart session := by
  intro loop turn hl hp
  obtain ⟨sequence, left, hs⟩ := h.sending loop turn hl hp
  rw [hf] at hs
  cases hs

/-- A receive loop that is not amid a flush and has nothing parked is steady. -/
theorem Steady.of_loop {session : Session} {loop : ReceiveLoop}
    (hl : session.receiving = .running loop) (hi : session.listening = true)
    (hs : ∀ turn, loop.phase ≠ .sending turn)
    (hp : loop.parked? ≠ none → ∀ turn, loop.phase ≠ .asking turn) : Steady session where
  sending := by
    rintro other turn ho hph
    obtain rfl : loop = other := by simpa [hl] using ho
    exact absurd hph (hs turn)
  parked := by
    rintro other ho hne
    obtain rfl : loop = other := by simpa [hl] using ho
    exact ⟨hp hne, hs⟩
  idle := by simp [hi]

theorem Steady.listening {session : Session} (h : Steady session) {loop : ReceiveLoop}
    (hl : session.receiving = .running loop) : session.listening = true := by
  by_contra hn
  have := h.idle (Bool.not_eq_true _ ▸ hn)
  simp [hl] at this

theorem Steady.of_stopped {session : Session} {result : Except Fault Unit}
    (hs : session.receiving = .stopped result) (hi : session.listening = true) :
    Steady session :=
  ⟨by simp [hs], by simp [hs], by simp [hi]⟩

theorem phase_start (requests : List DumpRequest) (turn : DumpTurn) :
    Phase.start requests ≠ .sending turn := by
  cases requests <;> simp [Phase.start]

theorem phase_after {phase : Phase} (message : Message)
    (h : ∀ turn, phase ≠ .sending turn) (turn : DumpTurn) :
    phase.after message ≠ .sending turn := by
  cases phase with
  | awaiting current sequence =>
    simp only [Phase.after]
    split
    · exact phase_start _ _
    · simp
  | asking => simp [Phase.after]
  | streaming => simp [Phase.after]
  | sending other => exact absurd rfl (h other)

theorem Steady.effect {office next : Office} {events : List Event}
    (h : Steady office.session) (he : Effect given office events next) :
    Steady next.session := by
  cases he with
  | arrange | frame | refuse | unreserve | finish | read | leave | release =>
    exact ⟨h.sending, h.parked, h.idle⟩
  | lapse => exact ⟨h.sending, h.parked, by simp⟩
  | start =>
    exact .of_loop rfl rfl (phase_start _) (by simp)
  | reserve hf | launch _ hf =>
    refine ⟨fun loop turn hl hp => ?_, h.parked, h.idle⟩
    obtain ⟨sequence, left, hs⟩ := h.sending loop turn hl hp
    simp [hf] at hs
  | write hf =>
    refine ⟨fun loop turn hl hp => ?_, h.parked, h.idle⟩
    obtain ⟨sequence, left, hs⟩ := h.sending loop turn hl hp
    obtain ⟨rfl, -⟩ : _ = _ ∧ _ := by simpa [hf] using hs
    exact ⟨_, _, rfl⟩
  | land hf ha | crash hf ha =>
    refine ⟨fun loop turn hl hp => ?_, h.parked, h.idle⟩
    exact absurd hp (ha loop turn hl)
  | ask hl hp =>
    refine ⟨?_, ?_, fun hi => absurd (h.listening hl) (by simpa using hi)⟩
    · rintro loop turn - -
      exact ⟨_, _, rfl⟩
    · rintro loop ⟨⟩ hne
      exact absurd hp hne
  | await hl ha =>
    exact .of_loop rfl (h.listening hl) (by simp) (by simp)
  | founder hl => exact .of_stopped rfl (h.listening hl)
  | drop hl | deliver hl =>
    exact .of_loop rfl (h.listening hl.running) hl.unsending fun _ => hl.unasking
  | push hl =>
    exact .of_loop rfl (h.listening hl.running) hl.unsending fun _ => hl.unasking
  | receive hl =>
    exact .of_loop rfl (h.listening hl.running) hl.unsending fun _ => hl.unasking
  | retry hl =>
    exact .of_loop rfl (h.listening hl.running) (by simp) fun hne => absurd hl.unparked hne
  | exhaust hl => exact .of_stopped rfl (h.listening hl.running)
  | forward hl hp =>
    have hs := (h.parked _ hl (by simp [hp])).2
    exact .of_loop rfl (h.listening hl) (phase_after _ hs) (by simp)
  | stop hl => exact .of_stopped rfl (h.listening hl)
  | close =>
    unfold Session.close
    split
    · exact h
    · exact ⟨h.sending, h.parked, h.idle⟩

theorem Effects.steady {office next : Office} {events : List Event}
    (h : Effects given office events next) (h0 : Steady office.session) : Steady next.session :=
  h.keep (fun _ _ _ _ hs he => Steady.effect hs he) [] h0

theorem Effect.port {office next : Office} {events : List Event}
    (he : Effect given office events next) : next.session.port = office.session.port := by
  cases he with
  | close hc => simp [Session.close, hc]
  | _ => rfl

theorem Effect.settings {office next : Office} {events : List Event}
    (he : Effect given office events next) :
    next.session.settings = office.session.settings := by
  cases he with
  | close hc => simp [Session.close, hc]
  | _ => rfl

/-- A record is taken before all else in an effect, by a loop that is ready for it. -/
theorem Effect.ready_of_took {office next : Office} {events earlier later : List Event}
    {phase : Phase} {item : Except Fault (List UInt8)} {namespaceId? : Option Int32}
    {fate : Fate} (he : Effect given office events next)
    (heq : events = earlier ++ .took phase item namespaceId? fate :: later) :
    earlier = [] ∧ ∃ loop, Ready office.session loop ∧ loop.phase = phase := by
  have hm : .took phase item namespaceId? fate ∈ events := by simp [heq]
  cases he with
  | drop hl | deliver hl | retry hl | exhaust hl | push hl =>
    cases earlier with
    | nil =>
      obtain ⟨hphase, -⟩ := Event.took.inj (List.cons.inj heq).1
      exact ⟨rfl, _, hl, hphase⟩
    | cons first earlier => cases earlier <;> simp at heq
  | _ => simp at hm

end Office
end RouteNetlink
