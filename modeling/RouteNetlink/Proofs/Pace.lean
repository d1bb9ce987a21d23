import RouteNetlink.Proofs.Steps

/-! The reader of the stream decides only how far it is behind: whatever it does, and however
many messages may wait for it, everything else happens alike. -/
namespace RouteNetlink
namespace Office

/-- The session as if its reader had left. -/
def mute (session : Session) : Session :=
  { session with
    settings := session.settings.withChannelDepth 1
    stream := ⟨1, [], session.stream.outlet, .dropped⟩ }

def muted (office : Office) : Office := ⟨mute office.session, office.held⟩

def Action.isReaders : Action → Bool
  | .read | .closeStream | .dropStream => true
  | _ => false

def Event.isReaders : Event → Bool
  | .read _ => true
  | _ => false

section

variable (session : Session)

@[simp] theorem port_mute : (mute session).port = session.port := rfl

@[simp] theorem transmit_mute : (mute session).transmit = session.transmit := rfl

@[simp] theorem ledger_mute : (mute session).ledger = session.ledger := rfl

@[simp] theorem transport_mute : (mute session).transport = session.transport := rfl

@[simp] theorem closed_mute : (mute session).closed = session.closed := rfl

@[simp] theorem listening_mute : (mute session).listening = session.listening := rfl

@[simp] theorem flight_mute : (mute session).flight? = session.flight? := rfl

@[simp] theorem receiving_mute : (mute session).receiving = session.receiving := rfl

@[simp] theorem dumpAttempts_mute :
    (mute session).settings.dumpAttempts = session.settings.dumpAttempts := rfl

theorem land_mute (receipt : Receipt) (result : Except Fault Unit) :
    (mute session).land receipt result =
      ((session.land receipt result).1, mute (session.land receipt result).2) := by
  cases result with
  | ok => rfl
  | error fault =>
    obtain ⟨sequence, reservation?⟩ := receipt
    cases reservation? <;> rfl

theorem launch_mute (receipt : Receipt) :
    (mute session).launch receipt =
      ((session.launch receipt).1, mute (session.launch receipt).2) := by
  cases hc : session.closed with
  | true =>
    simp only [Session.launch, closed_mute, hc, if_true]
    exact land_mute ..
  | false =>
    cases he : session.transmit.isEmpty with
    | true =>
      simp only [Session.launch, closed_mute, transmit_mute, hc, he, Bool.false_eq_true, if_false,
        if_true]
      exact land_mute ..
    | false =>
      simp only [Session.launch, closed_mute, transmit_mute, hc, he, Bool.false_eq_true, if_false]
      simp [mute, hc]

theorem push_mute (flight : Flight) :
    (mute session).push flight =
      ((session.push flight).1, mute (session.push flight).2) := by
  simp only [Session.push, transport_mute]
  cases session.transport.send flight.left with
  | mk accepted transport =>
    match accepted with
    | .error code => exact land_mute { session with transport } ..
    | .ok 0 => exact land_mute { session with transport } ..
    | .ok (n + 1) =>
      dsimp only
      cases flight.left.drop (n + 1) with
      | nil => exact land_mute { session with transport } ..
      | cons => rfl

theorem add_mute (message : Message) :
    (mute session).add message =
      ⟨(session.add message).outcome, (session.add message).message,
        mute (session.add message).session⟩ := rfl

theorem beginSend_mute (message : Message) :
    (mute session).beginSend message =
      ⟨(session.beginSend message).outcome, (session.beginSend message).message,
        mute (session.beginSend message).session⟩ := by
  simp only [Session.beginSend, add_mute]
  cases (session.add message).outcome with
  | error => rfl
  | ok sequence => simp only [launch_mute]

theorem beginReserve_mute (message : Message) :
    (mute session).beginReserve message =
      ⟨(session.beginReserve message).outcome, (session.beginReserve message).message,
        mute (session.beginReserve message).session⟩ := by
  simp only [Session.beginReserve, add_mute, ledger_mute]
  cases (session.add (Session.requestAck message)).outcome with
  | error => rfl
  | ok sequence =>
    dsimp only
    cases (session.add (Session.requestAck message)).session.ledger.register sequence with
    | error => rfl
    | ok registered =>
      have hl := launch_mute
        { (session.add (Session.requestAck message)).session with ledger := registered.2 }
        ⟨sequence, some registered.1⟩
      have houtcome := congrArg Prod.fst hl
      have hsession := congrArg Prod.snd hl
      exact congrArg₂ (Call.mk · _ ·) houtcome hsession

theorem dispatch_mute (item : Except Fault (List UInt8)) (namespaceId? : Option Int32) :
    (mute session).dispatch item namespaceId? =
      ((session.dispatch item namespaceId?).1, mute (session.dispatch item namespaceId?).2) := by
  simp only [dispatch_eq, port_mute, ledger_mute]
  cases heard item namespaceId? with
  | none => rfl
  | some message =>
    dsimp only
    cases (answer? session.port message).bind session.ledger.resolve <;> rfl

theorem take_mute (loop : ReceiveLoop) (item : Except Fault (List UInt8))
    (rest : ReceiveBuffer) :
    (mute session).take loop item rest = mute (session.take loop item rest) := by
  simp only [Session.take, dispatch_mute]
  cases (session.dispatch item rest.namespaceId?).1 with
  | none => rfl
  | some message =>
    simp only [port_mute]
    cases loop.phase.failure? (session.dispatch item rest.namespaceId?).2.port message with
    | none => rfl
    | some failure =>
      by_cases ht : failure.1.attempt <
          (session.dispatch item rest.namespaceId?).2.settings.dumpAttempts
      · simp only [Session.retry, dumpAttempts_mute, ht, if_true]
        rfl
      · simp only [Session.retry, dumpAttempts_mute, ht, if_false]
        rfl

theorem fill_mute (loop : ReceiveLoop) :
    (mute session).fill loop = (session.fill loop).map mute := by
  unfold Session.fill
  split <;> split
  · rfl
  · contradiction
  · contradiction
  · match session.transport.receive? with
    | none => rfl
    | some (.failure code, transport) => rfl
    | some (.datagram [] _, transport) => rfl
    | some (.datagram (b :: bs) _, transport) => rfl

theorem depart_mute (loop : ReceiveLoop) (turn : DumpTurn) (progress : Progress) :
    (mute session).depart loop turn progress = mute (session.depart loop turn progress) := by
  match progress with
  | .flying _ => rfl
  | .landed (.ok _) => rfl
  | .landed (.error fault) => cases fault <;> rfl

theorem ask_mute (loop : ReceiveLoop) (turn : DumpTurn) :
    (mute session).ask loop turn = (session.ask loop turn).map mute := by
  simp only [Session.ask, flight_mute]
  cases session.flight? with
  | some => rfl
  | none => simp only [beginSend_mute, depart_mute, Option.map_some]

theorem forward_mute {loop : ReceiveLoop} {message : Message} {next : Session}
    (h : session.forward loop message = some next) :
    (mute session).forward loop message = some (mute next) := by
  unfold Session.forward at h ⊢
  split at h <;> split
  · cases h
    rfl
  · contradiction
  · contradiction
  · obtain ⟨stream, ho, rfl⟩ := Option.map_eq_some_iff.1 h
    have hm : (mute session).stream.offer message = some (mute session).stream := rfl
    rw [hm]
    have houtlet : stream.outlet = session.stream.outlet := by
      rcases Stream.offer_eq_some_iff.1 ho with ⟨-, rfl⟩ | ⟨-, -, rfl⟩ <;> rfl
    simp [mute, Session.resume, houtlet]

theorem advance_mute {loop : ReceiveLoop} {next : Session}
    (h : session.advance loop = some next) :
    (mute session).advance loop = some (mute next) := by
  unfold Session.advance at h ⊢
  cases hp : loop.parked? with
  | some message =>
    simp only [hp] at h ⊢
    exact forward_mute session h
  | none =>
    simp only [hp] at h ⊢
    cases hph : loop.phase with
    | asking turn =>
      simp only [hph] at h ⊢
      rw [ask_mute, h]
      rfl
    | sending turn =>
      simp only [hph] at h ⊢
      obtain ⟨flight, hf, rfl⟩ := Option.map_eq_some_iff.1 h
      simp only [flight_mute, hf, Option.map_some, push_mute, depart_mute]
    | _ =>
      simp only [hph] at h ⊢
      cases hn : loop.buffer.next? with
      | some taken =>
        simp only [hn] at h ⊢
        cases h
        rw [take_mute]
      | none =>
        simp only [hn] at h ⊢
        rw [fill_mute, h]
        rfl

theorem close_mute : (mute session).close = mute session.close := by
  cases hc : session.closed with
  | true => simp [Session.close, hc]
  | false =>
    by_cases ho : session.stream.outlet = .kept <;> simp [Session.close, mute, hc, ho, Stream.shut]

theorem listen_mute (requests : List DumpRequest) :
    (mute session).listen requests =
      ((session.listen requests).1, mute (session.listen requests).2) := by
  cases hl : session.listening with
  | true => simp [Session.listen, hl]
  | false =>
    by_cases ho : session.stream.outlet = .kept <;>
      simp [Session.listen, mute, hl, ho, Session.resume, Settings.withChannelDepth]

theorem writing_mute (flight : Flight) :
    writing (mute session) flight = writing session flight := by
  simp only [writing, transport_mute, push_mute]

theorem sending_mute (purpose : Purpose) (message : Message) :
    sending (mute session) purpose message = sending session purpose message := by
  simp only [sending, framing, add_mute, launch_mute]

theorem reserving_mute (message : Message) :
    reserving (mute session) message = reserving session message := by
  simp only [reserving, framing, add_mute, ledger_mute]
  cases (session.add (Session.requestAck message)).outcome with
  | error => rfl
  | ok sequence =>
    dsimp only
    cases (session.add (Session.requestAck message)).session.ledger.register sequence with
    | error => rfl
    | ok registered =>
      have hl := launch_mute
        { (session.add (Session.requestAck message)).session with ledger := registered.2 }
        ⟨sequence, some registered.1⟩
      have houtcome := congrArg Prod.fst hl
      exact congrArg (fun progress => _ :: _ :: landing _ progress) houtcome

theorem ticking_mute (loop : ReceiveLoop) : ticking (mute session) loop = ticking session loop := by
  have hw : writing (mute session) = writing session := funext (writing_mute session)
  unfold ticking
  cases loop.parked? with
  | some message => rfl
  | none =>
    cases loop.phase with
    | asking turn => exact sending_mute ..
    | sending turn => simp only [flight_mute, hw]
    | _ => rfl

end

/-- Whatever is not the reader's goes on alike without a reader. -/
theorem step_muted {office next : Office} {action : Action} {events : List Event}
    (ha : action.isReaders = false) (h : office.step action = some (next, events)) :
    office.muted.step action = some (next.muted, events) := by
  obtain ⟨session, held⟩ := office
  cases action with
  | read | closeStream | dropStream => cases ha
  | listen requests =>
    simp only [step, muted, listen_mute] at h ⊢
    split at h
    · rename_i hl
      cases h
      simp only [hl]
      rfl
    · rename_i hl
      cases h
      simp only [hl]
      rfl
  | tick =>
    simp only [step, muted, receiving_mute] at h ⊢
    split at h
    · obtain ⟨after, hn, h⟩ := Option.map_eq_some_iff.1 h
      cases h
      rw [advance_mute session hn, ticking_mute]
      rfl
    · cases h
  | add message =>
    simp only [step, muted, flight_mute] at h ⊢
    split at h
    · rename_i hf
      cases h
      exact if_pos hf
    · cases h
  | send message =>
    simp only [step, muted, flight_mute, beginSend_mute, sending_mute] at h ⊢
    split at h
    · rename_i hf
      cases h
      exact if_pos hf
    · cases h
  | flush =>
    simp only [step, muted, flight_mute, launch_mute] at h ⊢
    split at h
    · rename_i hf
      cases h
      exact if_pos hf
    · cases h
  | reserve message =>
    simp only [step, muted, flight_mute, beginReserve_mute, reserving_mute] at h ⊢
    split at h
    · rename_i hf
      cases h
      exact if_pos hf
    · cases h
  | write =>
    simp only [step, muted, flight_mute, push_mute, writing_mute] at h ⊢
    split at h
    · split at h
      · cases h
      · rename_i hasking
        cases h
        exact if_neg hasking
    · cases h
  | finish task now =>
    simp only [step, muted, ledger_mute] at h ⊢
    split at h
    · split at h
      · rename_i hm
        cases h
        exact if_pos hm
      · cases h
    · cases h
  | drop reservation =>
    simp only [step, muted] at h ⊢
    split at h
    · rename_i hm
      cases h
      exact if_pos hm
    · cases h
  | close =>
    simp only [step, muted, closed_mute, close_mute] at h ⊢
    cases h
    rfl
  | arrive arrival =>
    simp only [step, muted, transport_mute] at h ⊢
    obtain ⟨transport, ht, h⟩ := Option.map_eq_some_iff.1 h
    cases h
    rw [ht]
    rfl
  | hangUp | rule =>
    cases h
    rfl

/-- What the reader does changes nothing but its stream. -/
theorem step_readers {office next : Office} {action : Action} {events : List Event}
    (ha : action.isReaders = true) (h : office.step action = some (next, events)) :
    next.muted = office.muted ∧ events.filter (!·.isReaders) = [] := by
  cases action with
  | read =>
    obtain ⟨⟨message, stream⟩, hn, h⟩ := Option.map_eq_some_iff.1 h
    cases h
    have ho : stream.outlet = office.session.stream.outlet := by
      rw [(Stream.next?_eq_some_iff.1 hn).2]
    exact ⟨by simp [muted, mute, withStream, withSession, ho], rfl⟩
  | closeStream =>
    cases h
    have ho : office.session.stream.close.outlet = office.session.stream.outlet := by
      unfold Stream.close
      split <;> rfl
    exact ⟨by simp [muted, mute, withStream, withSession, ho], rfl⟩
  | dropStream =>
    cases h
    exact ⟨rfl, rfl⟩
  | _ => cases ha

/-- Nothing is queued, no reader is left, and nothing was read. -/
structure Unread (past : List Event) (office : Office) : Prop where
  empty : office.session.stream.queue = []
  left : office.session.stream.reader ≠ .reading
  unread : ∀ event ∈ past, event.isReaders = false

theorem Unread.still {past events : List Event} {office next : Office}
    (h : Unread past office) (he : ∀ event ∈ events, event.isReaders = false)
    (hq : next.session.stream.queue = office.session.stream.queue)
    (hr : next.session.stream.reader = office.session.stream.reader) :
    Unread (past ++ events) next :=
  ⟨hq.trans h.empty, hr ▸ h.left, List.forall_mem_append.2 ⟨h.unread, he⟩⟩

theorem Unread.effect {given : Message → Prop} {past events : List Event}
    {office next : Office} (h : Unread past office) (he : Effect given office events next) :
    Unread (past ++ events) next := by
  cases he with
  | read hn =>
    have hempty := h.empty
    simp [(Stream.next?_eq_some_iff.1 hn).1] at hempty
  | forward _ _ _ ho =>
    rcases Stream.offer_eq_some_iff.1 ho with ⟨-, rfl⟩ | ⟨hr, -, -⟩
    · exact h.still (by simp [Event.isReaders]) rfl rfl
    · exact absurd hr h.left
  | @leave session held stream hs =>
    have hclose : session.stream.close = session.stream := if_neg h.left
    rcases hs with rfl | rfl
    · exact h.still (by simp) (congrArg Stream.queue hclose) (congrArg Stream.reader hclose)
    · exact ⟨rfl, by simp [Stream.drop], by simpa using h.unread⟩
  | @close session held hc =>
    have hstream : session.close.stream.queue = session.stream.queue ∧
        session.close.stream.reader = session.stream.reader := by
      by_cases ho : session.stream.outlet = .kept <;> simp [Session.close, hc, ho, Stream.shut]
    exact h.still (by simp [Event.isReaders]) hstream.1 hstream.2
  | @crash session held receipt =>
    obtain ⟨sequence, reservation?⟩ := receipt
    cases reservation? <;> exact h.still (by simp [Event.isReaders]) rfl rfl
  | _ => exact h.still (by simp [Event.isReaders]) rfl rfl

/-- Only the reader reads: without one, the same would have happened. -/
theorem unread_step {office next : Office} {action : Action} {events : List Event}
    (hsteady : Steady office.session) (ha : action.isReaders = false)
    (h : office.step action = some (next, events)) :
    ∀ event ∈ events, event.isReaders = false := by
  have hmuted : Steady office.muted.session := ⟨hsteady.sending, hsteady.parked, hsteady.idle⟩
  have hlast : Unread ([] ++ events) next.muted :=
    (effects_step hmuted (given_true action) (step_muted ha h)).keep
      (fun _ _ _ _ hu he => Unread.effect hu he) [] ⟨rfl, by simp [muted, mute], by simp⟩
  exact hlast.unread

/-- A run without what its reader did. -/
theorem run_muted {office last : Office} {actions : List Action} {trace : List Event}
    (hsteady : Steady office.session) (h : office.run actions = some (last, trace)) :
    office.muted.run (actions.filter (!·.isReaders)) =
      some (last.muted, trace.filter (!·.isReaders)) := by
  induction actions generalizing office trace with
  | nil =>
    cases h
    rfl
  | cons action actions ih =>
    obtain ⟨next, events, later, hs, hrest, rfl⟩ := run_cons.1 h
    have hnext : Steady next.session :=
      (effects_step hsteady (given_true action) hs).steady hsteady
    have hlater := ih hnext hrest
    rw [List.filter_append]
    cases ha : action.isReaders with
    | true =>
      obtain ⟨hmuted, hnone⟩ := step_readers ha hs
      rw [List.filter_cons_of_neg (by simp [ha]), ← hmuted, hlater, hnone, List.nil_append]
    | false =>
      have hunread : events.filter (!·.isReaders) = events :=
        List.filter_eq_self.2 fun event hm => by simp [unread_step hsteady ha hs event hm]
      rw [List.filter_cons_of_pos (by simp [ha]), hunread]
      exact run_cons.2 ⟨next.muted, events, _, step_muted ha hs, hlater, rfl⟩

end Office
end RouteNetlink
