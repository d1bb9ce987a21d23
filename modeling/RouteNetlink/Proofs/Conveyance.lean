import RouteNetlink.Proofs.Rounds
import RouteNetlink.Proofs.Wire

/-! What is framed is sent, whole and once. Whoever flushes sends for everybody, and as long as
the transport takes something of every write, nothing is sent again, and nothing is lost but where
a reply cannot be reserved. -/
namespace RouteNetlink

/-- Without limits and rules a write takes everything. -/
theorem Transport.send_of_free {transport : Transport} (hr : transport.rules = [])
    (hm : transport.maxWrite? = none) (bs : List UInt8) :
    transport.send bs = (.ok bs.length, { transport with sent := bs :: transport.sent }) := by
  simp [send, hr, hm]

theorem Session.push_of_free {session : Session} (hr : session.transport.rules = [])
    (hm : session.transport.maxWrite? = none) {flight : Flight} (hb : flight.left ≠ []) :
    session.push flight = (.landed (.ok flight.receipt),
      { session with
        transport := { session.transport with sent := flight.left :: session.transport.sent }
        transmit := session.transmit.clear
        flight? := none }) := by
  obtain ⟨receipt, left⟩ := flight
  obtain ⟨b, bs, rfl⟩ := List.exists_cons_of_ne_nil hb
  simp [push, Transport.send_of_free hr hm, land]

namespace Office

/-- What of the framed bytes the transport has not accepted. -/
def unsent (session : Session) : List UInt8 :=
  match session.flight? with
  | some flight => flight.left
  | none => session.transmit.bytes

/-- Where no call fails, what is written comes off what is to be sent, and what is framed is added
to it. -/
def Conserved (office : Office) (events : List Event) (next : Office) : Prop :=
  (∀ fault, .failed fault ∉ events) →
    written events ++ unsent next.session = unsent office.session ++ records events

variable {given : Message → Prop} {past events later : List Event} {office next last : Office}
  {action : Action}

theorem Conserved.refl (office : Office) : Conserved office [] office :=
  fun _ => (List.append_nil _).symm

theorem Conserved.trans (h : Conserved office events next) (h' : Conserved next later last) :
    Conserved office (events ++ later) last := by
  intro hf
  have hfirst := h fun fault hm => hf fault (List.mem_append_left _ hm)
  have hthen := h' fun fault hm => hf fault (List.mem_append_right _ hm)
  calc written (events ++ later) ++ unsent last.session
      = written events ++ (written later ++ unsent last.session) := by
        rw [written_append, List.append_assoc]
    _ = (written events ++ unsent next.session) ++ records later := by
        rw [hthen, List.append_assoc]
    _ = unsent office.session ++ records (events ++ later) := by
        rw [hfirst, records_append, List.append_assoc]

theorem Conserved.of_failed (hf : ∃ fault, .failed fault ∈ events) :
    Conserved office events next :=
  fun hnone => hf.elim fun fault hm => absurd hm (hnone fault)

theorem Effect.conserved (he : Effect given office events next) :
    Conserved office events next := by
  cases he with
  | unreserve | founder | crash => exact .of_failed (by simp)
  | frame hf | reserve hf | ask _ _ _ hf =>
    exact fun _ => by simp [written, records, unsent, hf, TransmitBuffer.holding]
  | refuse hf _ hb => exact fun _ => by simp [written, records, unsent, hf, hb.bytes]
  | launch _ hf | write hf => exact fun _ => by simp [written, records, unsent, hf]
  | land hf | await _ _ hf =>
    exact fun _ => by simp [written, records, unsent, hf, TransmitBuffer.clear]
  | close hc =>
    rw [close_of_open hc]
    exact fun _ => by simp [written, records, unsent]
  | _ => exact fun _ => by simp [written, records, unsent, Office.release,
      Session.dropReservation, Session.stop]

theorem Effects.conserved (h : Effects given office events next) :
    Conserved office events next := by
  induction h with
  | refl => exact .refl _
  | tail _ he ih => exact ih.trans he.conserved

/-- The books, the counter and the framed bytes are all as the past made them. -/
structure Accounted (accepted : List UInt8) (past : List Event) (office : Office) : Prop where
  booked : Booked past office
  drawn : ∃ n, Drawn past office n
  wired : Wired accepted past office
  taken : ∀ s, .failed (.invalidMessage (.sequenceTaken s)) ∈ past →
    UInt32.size ≤ framings past

variable {accepted : List UInt8} {fault : Fault}

theorem Accounted.new (settings : Settings) (port : UInt32) (transport : Transport) :
    Accounted transport.accepted [] (.new settings port transport) where
  booked := .new ..
  drawn := ⟨0, .new ..⟩
  wired := .new ..
  taken := by simp

/-- A number is taken only if the counter has come round. -/
theorem Accounted.taken_step (h : Accounted accepted past office)
    (hs : office.step action = some (next, events)) {s : UInt32}
    (hm : .failed (.invalidMessage (.sequenceTaken s)) ∈ events) :
    UInt32.size ≤ framings (past ++ events) := by
  obtain ⟨n, hd⟩ := h.drawn
  rcases (flushing_step h.booked.steady hs).cause hm with
    ⟨-, hfault⟩ | ⟨answer, -, hfault⟩ | ⟨message, hz, hr, hframed⟩
  · cases hfault
  · unfold Fault.ofSend? at hfault
    split at hfault <;> cases hfault
  · obtain ⟨-, hclosed⟩ | ⟨-, -, r, hw, hsequence⟩ := Ledger.register_eq_error hr
    · cases hclosed
    · have hround := hd.round h.booked hw (hsequence.trans (Message.sequence_stamped hz _))
      have hone : 0 < framings events := List.countP_pos_iff.2 ⟨_, hframed, rfl⟩
      rw [framings_append]
      omega

theorem Accounted.step (h : Accounted accepted past office)
    (hs : office.step action = some (next, events)) : Accounted accepted (past ++ events) next := by
  have he := effects_step h.booked.steady (given_true action) hs
  exact
    { booked := he.keep (fun _ _ _ _ hb he => Booked.effect hb he) past h.booked
      drawn := he.keep
        (fun past office _ _ (hd : ∃ n, Drawn past office n) he => hd.elim fun _ hd =>
          hd.effect he)
        past h.drawn
      wired := he.keep (fun _ _ _ _ hw he => Wired.effect hw he) past h.wired
      taken := by
        intro s hm
        rcases List.mem_append.1 hm with hm | hm
        · rw [framings_append]
          exact Nat.le_add_right_of_le (h.taken s hm)
        · exact h.taken_step hs hm }

theorem accounted_run {settings : Settings} {port : UInt32} {transport : Transport}
    {actions : List Action}
    (hr : (Office.new settings port transport).run actions = some (office, past)) :
    Accounted transport.accepted past office :=
  keep_steps (Accounted transport.accepted) (fun _ _ _ _ _ h hs => h.step hs)
    (.new settings port transport) hr

theorem attempts_cons {actions : List Action} (hs : office.step action = some (next, events)) :
    attempts office (action :: actions) =
      (attempt? office.session action).toList ++ attempts next actions := by
  rw [attempts, hs, Option.elim_some]

/-- An answer that takes at least one byte. -/
def Takes (answer : Except Int32 Nat) : Prop := ∃ n, answer = .ok (n + 1)

theorem Takes.ofSend? {answer : Except Int32 Nat} (h : Takes answer) :
    Fault.ofSend? answer = none := by
  obtain ⟨n, rfl⟩ := h
  rfl

/-- What a step leaves in which the reply to a framed request could not be reserved: nothing of
what was framed, by whomever. -/
def Unreserves (session : Session) (fault : Fault) (events : List Event) (next : Session) :
    Prop :=
  session.flight? = none ∧
    session.ledger.register session.transmit.nextSequence = .error fault ∧
      ∃ message : Message, message.header.sequence = 0 ∧
        events = [.framed .reservation (message.stamped session.transmit), .cleared,
          .failed fault] ∧
        next = { session with transmit := (session.transmit.holding message).clear }

/-- As long as a session is not closed and every write gets somewhere, a call fails only because
it cannot reserve its reply. -/
theorem Flushing.unreserves {session after : Session} {fault : Fault}
    (h : Flushing session action events after) (hc : session.closed = false)
    (ha : ∀ answer, attempt? session action = some answer → Takes answer)
    (hf : .failed fault ∈ events) : Unreserves session fault events after := by
  cases h with
  | apart he =>
    have := he _ hf
    cases this
  | launched hl hbegun =>
    have hclosed := (Session.closed_of_launch ((hl.failed fault).1 hf)).1
    rw [hbegun, hc] at hclosed
    cases hclosed
  | pushed _ hl _ hattempt =>
    have hsend := Session.push_eq_error_iff.1 ((hl.failed fault).1 hf)
    rw [(ha _ hattempt).ofSend?] at hsend
    cases hsend
  | @unreserved message other hflight hm hr he hn =>
    subst he
    obtain rfl : fault = other := by simpa using hf
    rw [Message.sequence_stamped hm] at hr
    exact ⟨hflight, hr, message, hm, rfl, hn⟩

theorem Unreserves.cause {session after : Session} (h : Unreserves session fault events after) :
    (fault = .closed ∧ session.ledger.closed = true) ∨
      ∃ s, fault = .invalidMessage (.sequenceTaken s) := by
  obtain ⟨-, hr, -⟩ := h
  rcases Ledger.register_eq_error hr with ⟨hclosed, hfault⟩ | ⟨-, hfault, -⟩
  · exact .inl ⟨hfault, hclosed⟩
  · exact .inr ⟨_, hfault⟩

theorem Unreserves.short (h : Unreserves office.session fault events next.session) :
    (written events ++ unsent next.session).length <
      (unsent office.session ++ records events).length := by
  obtain ⟨hflight, -, message, -, rfl, hn⟩ := h
  have hpadded := List.length_pos_of_ne_nil (message.stamped office.session.transmit).padded_ne_nil
  have hafter : unsent next.session = [] := by
    rw [hn]
    simp [unsent, hflight, TransmitBuffer.clear]
  have hrecords : records [.framed .reservation (message.stamped office.session.transmit),
      .cleared, .failed fault] = (message.stamped office.session.transmit).padded :=
    List.append_nil _
  rw [hafter, hrecords]
  show 0 < _
  rw [List.length_append]
  omega

/-- What was cancelled stays cancelled. -/
theorem Booked.cancelled_step (h : Booked past office)
    (hs : office.step action = some (next, events)) (hc : office.session.ledger.closed = true) :
    next.session.ledger.closed = true := by
  rw [h.history.tied.closed] at hc
  rw [(booked_step h hs).history.tied.closed, entries_append]
  exact List.mem_append_left _ hc

/-- What is open in the end was open all along. -/
theorem Booked.open_of_run {actions : List Action} (h : Booked past office)
    (hr : office.run actions = some (last, later)) (hc : last.session.closed = false) :
    office.session.closed = false := by
  rw [← Bool.not_eq_true, (booked_run h hr).closed_iff] at hc
  rw [← Bool.not_eq_true, h.closed_iff]
  exact fun hm => hc (List.mem_append_left _ hm)

/-- What was framed against what is sent or will be, as long as the session is not closed and
every write gets somewhere: nothing is missing, or a call has failed and what is missing stays
missing. -/
structure Balanced (past : List Event) (office : Office) : Prop where
  whole : (∀ fault, .failed fault ∉ past) → written past ++ unsent office.session = records past
  short : ∀ fault, .failed fault ∈ past →
    (written past ++ unsent office.session).length < (records past).length
  cause : ∀ fault, .failed fault ∈ past → (fault = .closed ∧ office.session.ledger.closed = true) ∨
    ∃ s, fault = .invalidMessage (.sequenceTaken s)

theorem Balanced.new (settings : Settings) (port : UInt32) (transport : Transport) :
    Balanced [] (.new settings port transport) where
  whole := fun _ => rfl
  short := by simp
  cause := by simp

theorem Balanced.le (h : Balanced past office) :
    (written past ++ unsent office.session).length ≤ (records past).length := by
  by_cases hf : ∃ fault, .failed fault ∈ past
  · obtain ⟨fault, hf⟩ := hf
    exact (h.short fault hf).le
  · rw [h.whole (not_exists.1 hf)]

theorem Balanced.step (h : Balanced past office) (hb : Booked past office)
    (hc : office.session.closed = false)
    (ha : ∀ answer, attempt? office.session action = some answer → Takes answer)
    (hs : office.step action = some (next, events)) : Balanced (past ++ events) next := by
  have hconserved := (effects_step hb.steady (given_true action) hs).conserved
  have hunreserves : ∀ fault, .failed fault ∈ events →
      Unreserves office.session fault events next.session :=
    fun fault => (flushing_step hb.steady hs).unreserves hc ha
  refine ⟨fun hf => ?_, fun fault hf => ?_, fun fault hf => ?_⟩
  · have hpast := h.whole fun fault hm => hf fault (List.mem_append_left _ hm)
    have hevents := hconserved fun fault hm => hf fault (List.mem_append_right _ hm)
    rw [written_append, records_append, List.append_assoc, hevents, ← List.append_assoc, hpast]
  · have hle := h.le
    simp only [written_append, records_append, List.length_append] at hle ⊢
    by_cases hnow : ∃ fault, .failed fault ∈ events
    · obtain ⟨fault, hnow⟩ := hnow
      have hshort := (hunreserves fault hnow).short
      simp only [List.length_append] at hshort
      omega
    · have hevents := congrArg List.length (hconserved (not_exists.1 hnow))
      have hshort := h.short fault ((List.mem_append.1 hf).resolve_right fun hm =>
        hnow ⟨fault, hm⟩)
      simp only [List.length_append] at hevents hshort
      omega
  · have hcause : (fault = .closed ∧ office.session.ledger.closed = true) ∨
        ∃ s, fault = .invalidMessage (.sequenceTaken s) :=
      (List.mem_append.1 hf).elim (h.cause fault) fun hm => (hunreserves fault hm).cause
    exact hcause.imp_left (And.imp_right (hb.cancelled_step hs))

theorem Balanced.run {actions : List Action} (h : Balanced past office) (hb : Booked past office)
    (hr : office.run actions = some (last, later)) (hc : last.session.closed = false)
    (ha : ∀ answer ∈ attempts office actions, Takes answer) : Balanced (past ++ later) last := by
  induction actions generalizing office past later with
  | nil =>
    cases hr
    simpa using h
  | cons action actions ih =>
    obtain ⟨next, events, later, hs, hrest, rfl⟩ := run_cons.1 hr
    have hnext := booked_step hb hs
    have hopen := hb.open_of_run hr hc
    simp only [attempts_cons hs, List.mem_append, Option.mem_toList] at ha
    rw [← List.append_assoc]
    exact ih (h.step hb hopen (fun answer hanswer => ha answer (.inl hanswer)) hs) hnext hrest
      fun answer hanswer => ha answer (.inr hanswer)

theorem balanced_run {settings : Settings} {port : UInt32} {transport : Transport}
    {actions : List Action}
    (hr : (Office.new settings port transport).run actions = some (office, past))
    (hc : office.session.closed = false)
    (ha : ∀ answer ∈ attempts (.new settings port transport) actions, Takes answer) :
    Balanced past office :=
  (Balanced.new settings port transport).run (.new settings port transport) hr hc ha

theorem attempts_append {actions : List Action} (more : List Action)
    (hr : office.run actions = some (last, later)) :
    attempts office (actions ++ more) = attempts office actions ++ attempts last more := by
  induction actions generalizing office later with
  | nil =>
    cases hr
    rfl
  | cons action actions ih =>
    obtain ⟨next, events, later, hs, hrest, rfl⟩ := run_cons.1 hr
    rw [List.cons_append, attempts_cons hs, attempts_cons hs, ih hrest, List.append_assoc]

section Refused

variable {session : Session}

theorem refused_notMem_landing {reservation? : Option Reservation} {progress : Progress} :
    .refused fault ∉ landing reservation? progress := by
  match progress with
  | .flying _ => simp [landing]
  | .landed (.ok _) => simp [landing]
  | .landed (.error _) => simp [landing]

theorem refused_notMem_writing {flight : Flight} : .refused fault ∉ writing session flight := by
  unfold writing
  intro hm
  rcases List.mem_append.1 hm with hm | hm
  · split at hm <;> simp at hm
  · exact refused_notMem_landing hm

/-- What a step leaves in which a message was refused: all that was framed before. -/
def Refuses (session : Session) (fault : Fault) (events : List Event) (next : Session) : Prop :=
  events = [.refused fault] ∧
    ∃ buffer, session.transmit.Spared buffer ∧ next = { session with transmit := buffer }

theorem refuses_add {message : Message} {purpose : Purpose}
    (hm : framing session purpose message = .refused fault) :
    Refuses session fault [framing session purpose message] (session.add message).session := by
  refine ⟨congrArg (· :: []) hm, ?_⟩
  rcases session.add_cases message with h | ⟨other, buffer, -, hs, -, hb⟩
  · simp [framing, h] at hm
  · exact ⟨buffer, hb, hs⟩

/-- Where framing fails, a call does nothing else. -/
theorem refuses_beginSend {message : Message} {purpose : Purpose}
    (hm : .refused fault ∈ sending session purpose message) :
    Refuses session fault (sending session purpose message)
      (session.beginSend message).session := by
  rcases session.add_cases message with h | ⟨other, buffer, ho, hs, -, hb⟩
  · rw [sending_of_add h] at hm
    have hframing : .refused fault ≠ framing session purpose message := by simp [framing, h]
    simp [hframing, refused_notMem_landing] at hm
  · obtain rfl : fault = other := by simpa [sending, framing, ho] using hm
    exact ⟨by simp [sending, framing, ho], buffer, hb, by simp [Session.beginSend, ho, hs]⟩

theorem refuses_beginReserve {message : Message}
    (hm : .refused fault ∈ reserving session message) :
    Refuses session fault (reserving session message)
      (session.beginReserve message).session := by
  rcases session.add_cases (Session.requestAck message) with h | ⟨other, buffer, ho, hs, -, hb⟩
  · have hframing : .refused fault ≠ framing session .reservation (Session.requestAck message) := by
      simp [framing, h]
    simp only [reserving, h, List.mem_cons, hframing, false_or] at hm
    split at hm
    · simp at hm
    · simp [refused_notMem_landing] at hm
  · obtain rfl : fault = other := by simpa [reserving, framing, ho] using hm
    exact ⟨by simp [reserving, framing, ho], buffer, hb, by simp [Session.beginReserve, ho, hs]⟩

/-- The receive loop's own request is never refused. -/
theorem refused_notMem_ticking {loop : ReceiveLoop} : .refused fault ∉ ticking session loop := by
  intro hm
  unfold ticking at hm
  split at hm
  · split at hm <;> simp at hm
  · split at hm
    · rename_i turn _
      have hadd := session.add_dump turn.request.kind turn.request.family
      rw [sending_of_add hadd] at hm
      simp [framing, hadd, refused_notMem_landing] at hm
    · cases hf : session.flight? with
      | none => simp [hf] at hm
      | some flight =>
        rw [hf] at hm
        exact refused_notMem_writing hm
    · unfold reading at hm
      split at hm
      · simp at hm
      · split at hm
        · simp at hm
        · split at hm <;> simp at hm

theorem refuses_step (hs : office.step action = some (next, events))
    (hm : .refused fault ∈ events) : Refuses office.session fault events next.session := by
  cases action with
  | add message =>
    simp only [step] at hs
    split at hs <;> cases hs
    exact refuses_add (List.mem_singleton.1 hm).symm
  | send message =>
    simp only [step] at hs
    split at hs <;> cases hs
    exact refuses_beginSend hm
  | reserve message =>
    simp only [step] at hs
    split at hs <;> cases hs
    exact refuses_beginReserve hm
  | tick =>
    simp only [step] at hs
    split at hs
    · obtain ⟨after, -, hs⟩ := Option.map_eq_some_iff.1 hs
      cases hs
      rcases List.mem_append.1 hm with hm | hm
      · exact absurd hm refused_notMem_ticking
      · simpa using eq_stopped_of_mem_ending hm
    · cases hs
  | flush =>
    simp only [step] at hs
    split at hs <;> cases hs
    exact absurd hm refused_notMem_landing
  | write =>
    simp only [step] at hs
    split at hs
    · split at hs <;> cases hs
      exact absurd hm refused_notMem_writing
    · cases hs
  | listen =>
    simp only [step] at hs
    split at hs <;> cases hs <;> simp at hm
  | finish =>
    simp only [step] at hs
    split at hs
    · split at hs <;> cases hs
      simp at hm
    · cases hs
  | drop =>
    simp only [step] at hs
    split at hs <;> cases hs
    simp at hm
  | close =>
    cases hs
    split at hm <;> simp at hm
  | arrive | read =>
    obtain ⟨_, -, hs⟩ := Option.map_eq_some_iff.1 hs
    cases hs
    simp at hm
  | hangUp | rule | closeStream | dropStream =>
    cases hs
    cases hm

end Refused

/-- What a step does to what was framed, after a past in which the transport answered as told,
the step's own write included. -/
structure Conveyed (accepted : List UInt8) (answers : List (Except Int32 Nat))
    (past : List Event) (office : Office) (action : Action) (events : List Event)
    (next : Office) : Prop where
  accepted : next.session.transport.accepted = accepted ++ written (past ++ events)
  /-- The buffer holds what was framed since it was last emptied, in that order. -/
  buffered : next.session.transmit.bytes = records (batch (past ++ events))
  /-- While every write gets somewhere, a call fails only because it cannot reserve its reply. It
  has sent nothing then, and empties the buffer. -/
  unreserved : (∀ answer ∈ answers, Takes answer) → ∀ fault, .failed fault ∈ events →
    Unreserves office.session fault events next.session
  /-- Either the reservations were cancelled, or the number was taken. -/
  cause : (∀ answer ∈ answers, Takes answer) → ∀ fault, .failed fault ∈ past ++ events →
    (fault = .closed ∧ office.session.ledger.closed = true) ∨
      ∃ s, fault = .invalidMessage (.sequenceTaken s)
  /-- When a flush has ended, all that was ever framed is accepted exactly if there was no such
  call. -/
  whole : (∀ answer ∈ answers, Takes answer) → .cleared ∈ events →
    (written (past ++ events) = records (past ++ events) ↔
      ∀ fault, .failed fault ∉ past ++ events)
  /-- A number is taken only after the counter has come round. -/
  taken : ∀ s, .failed (.invalidMessage (.sequenceTaken s)) ∈ past ++ events →
    UInt32.size ≤ framings (past ++ events)
  emptied : .cleared ∈ events →
    next.session.transmit.bytes = [] ∧ next.session.flight? = none
  refused : ∀ fault, .refused fault ∈ events → Refuses office.session fault events next.session
  /-- A flush starts with nothing accepted of the buffer. -/
  fresh : office.session.flight? = none → written (batch past) = []
  /-- Where the transport takes nothing, the call fails with that, and what it had taken is the
  head of what was to be sent. -/
  failing : ∀ answer fault, attempt? office.session action = some answer →
    Fault.ofSend? answer = some fault →
      .failed fault ∈ events ∧ .cleared ∈ events ∧
        written (batch past) <+: office.session.transmit.bytes ∧ written events = []
  returns : ∀ flight, next.session.flight? = some flight →
    ∃ k ≤ flight.left.length + 1, ∃ last later,
      next.run (.replicate k (onward next.session)) = some (last, later) ∧
        last.session.flight? = none ∧ .cleared ∈ later

/-- Whatever callers, holders of reservations, reader and peer do: as long as the session is not
closed, the transport gets what is framed, in the order of framing, and each flush leaves the
buffer empty. Only a reply that cannot be reserved makes what was framed before go missing. -/
theorem run_conveyed {settings : Settings} {port : UInt32} {transport : Transport}
    {actions : List Action} {past : List Event} {office : Office}
    (hr : (Office.new settings port transport).run actions = some (office, past))
    (hc : office.session.closed = false) {action : Action} {next : Office} {events : List Event}
    (hs : office.step action = some (next, events)) :
    Conveyed transport.accepted (attempts (.new settings port transport) (actions ++ [action]))
      past office action events next := by
  have hpast := accounted_run hr
  have hnext := hpast.step hs
  have hflushing := flushing_step hpast.booked.steady hs
  have hsofar : (∀ answer ∈ attempts (.new settings port transport) (actions ++ [action]),
      Takes answer) → Balanced past office ∧
        ∀ answer, attempt? office.session action = some answer → Takes answer := by
    rw [attempts_append [action] hr, attempts_cons hs, attempts, List.append_nil]
    intro ha
    exact ⟨balanced_run hr hc fun answer hm => ha answer (List.mem_append_left _ hm),
      fun answer hm => ha answer (List.mem_append_right _ (Option.mem_toList.2 hm))⟩
  have hafter := fun ha => (hsofar ha).1.step hpast.booked hc (hsofar ha).2 hs
  refine
    { accepted := hnext.wired.accepted
      buffered := hnext.wired.framed
      unreserved := fun ha fault => hflushing.unreserves hc (hsofar ha).2
      cause := fun ha fault hf => ?_
      whole := fun ha hcleared => ⟨fun heq fault hf => ?_, fun hnone => ?_⟩
      taken := hnext.taken
      emptied := hflushing.idle
      refused := fun fault hm => refuses_step hs hm
      fresh := hpast.wired.grounded
      failing := fun answer fault ha hfault => ?_
      returns := fun flight hf => flush_returns hnext.booked.steady hf }
  · obtain ⟨hbalanced, hown⟩ := hsofar ha
    exact (List.mem_append.1 hf).elim (hbalanced.cause fault) fun hm =>
      (hflushing.unreserves hc hown hm).cause
  · have hshort := (hafter ha).short fault hf
    rw [List.length_append, heq] at hshort
    omega
  · obtain ⟨hempty, hidle⟩ := hflushing.idle hcleared
    have hwhole := (hafter ha).whole hnone
    simpa [unsent, hidle, hempty] using hwhole
  · obtain ⟨hfailed, hcleared, hpieces, ⟨receipt, left⟩, hf⟩ := hflushing.fails ha hfault
    refine ⟨hfailed, hcleared, ⟨left, ?_⟩, ?_⟩
    · rw [hpast.wired.flying receipt left hf, hpast.wired.framed]
    · refine List.flatMap_eq_nil_iff.2 fun event hm => ?_
      split
      · exact hpieces _ hm
      · rfl

/-- A caller leaves a request, and the receive loop's own flush sends both in two writes. -/
def sharedFlush : List Action :=
  [.listen [⟨.getLink, .packet⟩], .add (.dump .getAddress .inet), .tick, .tick]

theorem run_conveyed_sharedFlush :
    ∃ office past next events,
      (Office.new .standard 7 (.new (some 30))).run sharedFlush = some (office, past) ∧
        office.session.closed = false ∧ office.step .tick = some (next, events) ∧
        Conveyed [] (attempts (.new .standard 7 (.new (some 30))) (sharedFlush ++ [.tick]))
          past office .tick events next ∧
        next.session.transport.accepted.length = 40 ∧
        written (past ++ events) = records (past ++ events) := by
  have h : (((Office.new .standard 7 (.new (some 30))).run sharedFlush).any fun flown =>
      !flown.1.session.closed &&
        (flown.1.step .tick).any fun after =>
          after.1.session.transport.accepted.length = 40 &&
            written (flown.2 ++ after.2) = records (flown.2 ++ after.2)) = true := by
    decide +kernel
  obtain ⟨⟨office, past⟩, hrun, h⟩ := (Option.any_eq_true ..).1 h
  simp only [Bool.and_eq_true, Bool.not_eq_true', Option.any_eq_true, Prod.exists,
    decide_eq_true_eq] at h
  obtain ⟨ho, next, events, hstep, hlength, hwhole⟩ := h
  exact ⟨office, past, next, events, hrun, ho, hstep, run_conveyed hrun ho hstep, hlength,
    hwhole⟩

section ComeRound

open TransmitBuffer

/-- Nothing is framed, the counter has come so far, and the transport takes whatever it gets. -/
structure Resting (session : Session) (n : Nat) : Prop where
  closed : session.closed = false
  receiving : session.receiving = .idle
  flight : session.flight? = none
  bytes : session.transmit.bytes = []
  counter : session.transmit.nextSequence = nth n
  rules : session.transport.rules = []
  maxWrite : session.transport.maxWrite? = none

/-- The actions lead to such a session, with that ledger, and every write in them gets somewhere. -/
def RestsAfter (office : Office) (actions : List Action) (n : Nat) (ledger : Ledger) : Prop :=
  ∃ last events, office.run actions = some (last, events) ∧ Resting last.session n ∧
    last.session.ledger = ledger ∧ ∀ answer ∈ attempts office actions, Takes answer

variable {n m : Nat} {ledger : Ledger}

theorem RestsAfter.append {actions more : List Action} {later : Ledger}
    (h : RestsAfter office actions n ledger)
    (hmore : ∀ next, Resting next.session n → next.session.ledger = ledger →
      RestsAfter next more m later) : RestsAfter office (actions ++ more) m later := by
  obtain ⟨next, events, hr, hrest, hledger, ha⟩ := h
  obtain ⟨last, events', hr', hrest', hledger', ha'⟩ := hmore next hrest hledger
  refine ⟨last, _, run_append hr hr', hrest', hledger', fun answer hm => ?_⟩
  rw [attempts_append more hr] at hm
  exact (List.mem_append.1 hm).elim (ha answer) (ha' answer)

/-- Whatever is launched from there is through after one write. -/
theorem Resting.write_launch (h : Resting office.session n) {transmit : TransmitBuffer}
    (hb : transmit.bytes ≠ []) (hm : transmit.nextSequence = nth m)
    (hs : ∃ receipt held events, office.step action =
      some (⟨(Session.launch { office.session with transmit, ledger } receipt).2, held⟩, events))
    (ha : attempt? office.session action = none) :
    RestsAfter office [action, .write] m ledger := by
  obtain ⟨receipt, held, events, hs⟩ := hs
  let begun : Session :=
    { office.session with transmit, ledger, flight? := some ⟨receipt, transmit.bytes⟩ }
  have hlaunch : Session.launch { office.session with transmit, ledger } receipt =
      (.flying ⟨receipt, transmit.bytes⟩, begun) := by
    simp [begun, Session.launch, h.closed, TransmitBuffer.isEmpty, hb]
  have hasking : isAsking begun = false := by simp only [begun, isAsking, h.receiving]
  have hwrite : step ⟨begun, held⟩ .write =
      some (⟨(begun.push ⟨receipt, transmit.bytes⟩).2,
        handed (begun.push ⟨receipt, transmit.bytes⟩).1 ++ held⟩,
        writing begun ⟨receipt, transmit.bytes⟩) := by
    simp only [step, hasking]
    rfl
  have hattempt : attempt? begun .write = some (.ok transmit.bytes.length) := by
    simp only [attempt?, hasking]
    exact congrArg (some ∘ Prod.fst) (Transport.send_of_free h.rules h.maxWrite _)
  rw [hlaunch] at hs
  rw [Session.push_of_free (show begun.transport.rules = [] from h.rules) h.maxWrite hb] at hwrite
  refine ⟨_, _, run_cons.2 ⟨_, _, _, hs, run_cons.2 ⟨_, _, _, hwrite, rfl, rfl⟩, rfl⟩,
    ⟨h.closed, h.receiving, rfl, rfl, hm, h.rules, h.maxWrite⟩, rfl, fun answer hanswer => ?_⟩
  rw [attempts_cons hs, attempts_cons hwrite, ha, hattempt] at hanswer
  obtain ⟨k, hk⟩ := Nat.exists_eq_add_one.2 (List.length_pos_of_ne_nil hb)
  exact ⟨k, hk ▸ List.mem_singleton.1 hanswer⟩

theorem Resting.counter_holding (h : Resting office.session n) (message : Message)
    (hm : message.header.sequence = 0) :
    (office.session.transmit.holding message).nextSequence = nth (n + 1) := by
  rw [Message.counter_holding hm, h.counter, successor_nth]

/-- A request that is sent from there takes the next number. -/
theorem Resting.send (h : Resting office.session n) (kind : RecordKind) (family : Family) :
    RestsAfter office [.send (.dump kind family), .write] (n + 1) office.session.ledger := by
  refine h.write_launch (bytes_holding_ne_nil _ _) (h.counter_holding (.dump kind family) rfl) ?_ rfl
  simp only [step, h.flight, beginSend_of_add (office.session.add_dump kind family)]
  exact ⟨_, _, _, rfl⟩

theorem Resting.send_replicate (h : Resting office.session n) (kind : RecordKind)
    (family : Family) (k : Nat) :
    RestsAfter office (List.replicate k [.send (.dump kind family), .write]).flatten (n + k)
      office.session.ledger := by
  induction k generalizing office n with
  | zero => exact ⟨office, [], rfl, h, rfl, by simp [attempts]⟩
  | succ k ih =>
    have hn : n + (k + 1) = n + 1 + k := by omega
    rw [List.replicate_succ, List.flatten_cons, hn]
    exact (h.send kind family).append fun next hnext hledger => hledger ▸ ih hnext

/-- The reply to the next request can be reserved if nobody awaits one under that number. -/
theorem Resting.reserve (h : Resting office.session n) {r : Reservation}
    (hr : office.session.ledger.register (nth n) = .ok (r, ledger)) (kind : RecordKind)
    (family : Family) :
    RestsAfter office [.reserve (.dump kind family), .write] (n + 1) ledger := by
  have hcounter := h.counter_holding (Session.requestAck (.dump kind family)) rfl
  refine h.write_launch (bytes_holding_ne_nil _ _) hcounter ?_ rfl
  simp only [step, h.flight, Session.beginReserve,
    office.session.add_requestAck_dump kind family, h.counter, hr]
  exact ⟨_, _, _, rfl⟩

/-- Where the reply to the next request but one is awaited, a request that is framed goes missing:
the call behind it cannot reserve its own reply. -/
theorem Resting.collide (h : Resting office.session n)
    (hl : office.session.ledger.closed = false) {r : Reservation}
    (hw : office.session.ledger.waiter? (nth (n + 1)) = some r) (kind : RecordKind)
    (family : Family) :
    ∃ last events,
      office.run [.add (.dump kind family), .reserve (.dump kind family)] = some (last, events) ∧
        last.session.closed = false ∧ last.session.ledger = office.session.ledger ∧
        last.session.flight? = none ∧ last.session.transmit.bytes = [] ∧
        .failed (.invalidMessage (.sequenceTaken (nth (n + 1)))) ∈ events ∧
        attempts office [.add (.dump kind family), .reserve (.dump kind family)] = [] := by
  have hadd := office.session.add_dump kind family
  have hcounter : (office.session.transmit.holding (.dump kind family)).nextSequence =
      nth (n + 1) := h.counter_holding _ rfl
  have hr : office.session.ledger.register (nth (n + 1)) =
      .error (.invalidMessage (.sequenceTaken (nth (n + 1)))) := by
    simp [Ledger.register, hl, hw]
  have hfirst : office.step (.add (.dump kind family)) = some (office.withSession
      { office.session with transmit := office.session.transmit.holding (.dump kind family) },
      [framing office.session .plain (.dump kind family)]) := by
    simp only [step, h.flight, hadd]
    rfl
  have hthen : ∃ events, step (office.withSession
      { office.session with transmit := office.session.transmit.holding (.dump kind family) })
      (.reserve (.dump kind family)) = some (⟨{ office.session with transmit :=
        ((office.session.transmit.holding (.dump kind family)).holding
          (Session.requestAck (.dump kind family))).clear }, office.held⟩, events) ∧
      .failed (.invalidMessage (.sequenceTaken (nth (n + 1)))) ∈ events := by
    simp only [step, withSession, h.flight, Session.beginReserve, reserving,
      Session.add_requestAck_dump _ kind family, hcounter, hr]
    exact ⟨_, rfl, by simp⟩
  obtain ⟨events, hthen, hm⟩ := hthen
  refine ⟨_, _, run_cons.2 ⟨_, _, _, hfirst, run_cons.2 ⟨_, _, _, hthen, rfl, rfl⟩, rfl⟩,
    h.closed, rfl, h.flight, rfl, by simp [hm], ?_⟩
  rw [attempts_cons hfirst, attempts_cons hthen]
  rfl

theorem resting_new (settings : Settings) (port : UInt32) :
    Resting (Office.new settings port (.new none)).session 0 := by
  constructor <;> rfl

/-- A reply is reserved and not waited for while so many requests are sent. Then one is left in
the buffer, and one more reply is to be reserved. -/
def comeRound (n : Nat) : List Action :=
  [.reserve (.dump .getLink .packet), .write] ++
    (List.replicate n [.send (.dump .getLink .packet), .write]).flatten ++
    [.add (.dump .getLink .packet), .reserve (.dump .getLink .packet)]

/-- If the number of the first request has come again, what was left in the buffer is lost, while
the session is open and its one reservation still awaited. No write fails, and the flush behind it
goes well. -/
theorem flush_misses {n : Nat} (hn : nth (1 + n + 1) = nth 0) :
    ∃ office past next,
      (Office.new .standard 7 (.new none)).run (comeRound n) = some (office, past) ∧
        office.session.closed = false ∧ office.session.ledger = ⟨[⟨1, 0⟩], [], 1, false⟩ ∧
        (∀ answer ∈ attempts (.new .standard 7 (.new none)) (comeRound n ++ [.flush]),
          Takes answer) ∧
        office.step .flush = some (next, [.cleared]) ∧
        next.session.transport.accepted ≠ records (past ++ [.cleared]) := by
  have hstart := resting_new .standard 7
  obtain ⟨middle, before, hbefore, hrest, hledger, ha⟩ :=
    (hstart.reserve (show _ = Except.ok (⟨1, 0⟩, ⟨[⟨1, 0⟩], [], 1, false⟩) from rfl) .getLink
      .packet).append fun next hnext hl => hl ▸ hnext.send_replicate .getLink .packet n
  have hwaiter : middle.session.ledger.waiter? (nth (1 + n + 1)) = some ⟨1, 0⟩ := by
    rw [hledger, hn]
    rfl
  obtain ⟨office, later, hlater, hc, hl, hf, hb, hfailed, hnone⟩ :=
    hrest.collide (by rw [hledger]) hwaiter .getLink .packet
  have hrun : (Office.new .standard 7 (.new none)).run (comeRound n) =
      some (office, before ++ later) := run_append hbefore hlater
  have hlaunch : office.session.launch ⟨0, none⟩ = office.session.land ⟨0, none⟩ (.ok ()) := by
    simp [Session.launch, hc, TransmitBuffer.isEmpty, hb]
  have hflush : office.step .flush =
      some (office.withSession (office.session.land ⟨0, none⟩ (.ok ())).2, [.cleared]) := by
    simp only [step, hf, hlaunch]
    rfl
  have hattempts : ∀ answer ∈ attempts (.new .standard 7 (.new none)) (comeRound n),
      Takes answer := by
    rw [comeRound, attempts_append _ hbefore, hnone, List.append_nil]
    exact ha
  refine ⟨office, before ++ later, _, hrun, hc, hl.trans hledger, ?_, hflush, fun heq => ?_⟩
  · rw [attempts_append _ hrun, attempts_cons hflush]
    simpa [attempts, attempt?] using hattempts
  · have hpast := accounted_run hrun
    have hafter := (balanced_run hrun hc hattempts).step hpast.booked hc (by simp [attempt?]) hflush
    have hshort := hafter.short _
      (List.mem_append_left _ (List.mem_append_right before hfailed))
    rw [← heq, (hpast.step hflush).wired.accepted, List.length_append] at hshort
    exact absurd hshort (Nat.not_lt.2 (Nat.le_add_right _ _))

/-- So it is with as many requests as make the counter come round. -/
theorem flush_misses_comeRound :
    ∃ office past next,
      (Office.new .standard 7 (.new none)).run (comeRound (UInt32.size - 3)) =
          some (office, past) ∧
        office.session.closed = false ∧ office.session.ledger = ⟨[⟨1, 0⟩], [], 1, false⟩ ∧
        (∀ answer ∈ attempts (.new .standard 7 (.new none))
          (comeRound (UInt32.size - 3) ++ [.flush]), Takes answer) ∧
        office.step .flush = some (next, [.cleared]) ∧
        next.session.transport.accepted ≠ records (past ++ [.cleared]) := by
  have hn : nth (1 + (UInt32.size - 3) + 1) = nth 0 := by
    apply UInt32.toNat_inj.1
    rw [toNat_nth, toNat_nth]
    rfl
  exact flush_misses hn

end ComeRound

end Office
end RouteNetlink
