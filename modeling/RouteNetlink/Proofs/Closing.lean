import RouteNetlink.Proofs.Fates
import RouteNetlink.Proofs.Reserving
import RouteNetlink.Session.Desk

/-! The end of a session. Once it is closed or its receive loop has stopped, nobody waits, nobody
is let in again, and the stream only runs dry. -/
namespace RouteNetlink

namespace Session

variable {session : Session}

/-- A reply cannot be reserved any more. -/
theorem reserve_of_cancelled (h : session.ledger.closed = true) {message : Message}
    {sequence : UInt32} (ha : (session.add (requestAck message)).outcome = .ok sequence) :
    (session.reserve message).outcome = .error .closed ∧
      (session.reserve message).session.ledger = session.ledger ∧
      (session.reserve message).session.transport = session.transport := by
  obtain ⟨ho, hs⟩ := beginReserve_of_cancelled h ha
  simp only [reserve, ho, hs, fly]
  exact ⟨trivial, trivial, trivial⟩

theorem launch_of_closed (session : Session) (receipt : Receipt) (h : session.closed = true) :
    session.launch receipt = session.land receipt (.error .closed) := by
  simp [launch, h]

/-- Nor is anything sent. -/
theorem beginSend_of_closed (h : session.closed = true) {message : Message} {sequence : UInt32}
    (ha : (session.add message).outcome = .ok sequence) :
    (session.beginSend message).outcome = .landed (.error .closed) ∧
      (session.beginSend message).session.transport = session.transport ∧
      (session.beginSend message).session.transmit.bytes = [] ∧
      (session.beginSend message).session.flight? = none := by
  rcases session.add_cases message with hadd | ⟨fault, buffer, ho, -⟩
  · have hl := launch_of_closed { session with transmit := session.transmit.holding message }
      ⟨(message.stamped session.transmit).header.sequence, none⟩ h
    rw [Office.beginSend_of_add hadd, hl, Office.land_error]
    exact ⟨rfl, rfl, rfl, rfl⟩
  · rw [ho] at ha
    cases ha

theorem send_of_closed (h : session.closed = true) {message : Message} {sequence : UInt32}
    (ha : (session.add message).outcome = .ok sequence) :
    (session.send message).outcome = .error .closed ∧
      (session.send message).session.transport = session.transport ∧
      (session.send message).session.transmit.bytes = [] := by
  obtain ⟨ho, ht, hb, -⟩ := beginSend_of_closed h ha
  simp only [send, ho, fly]
  exact ⟨trivial, ht, hb⟩

theorem flush_of_closed (h : session.closed = true) :
    session.flush.1 = .error .closed ∧ session.flush.2.transport = session.transport ∧
      session.flush.2.transmit.bytes = [] := by
  rw [flush_eq, launch_of_closed _ _ h, Office.land_error, fly]
  exact ⟨rfl, rfl, rfl⟩

end Session

namespace Desk

/-- Forgetting a task lets nobody in. -/
theorem drop_of_cancelled (desk : Desk) (name : String) (h : desk.ledger.closed = true)
    (hw : desk.ledger.waiters = []) :
    (desk.drop name).ledger.closed = true ∧ (desk.drop name).ledger.waiters = [] ∧
      (desk.drop name).session.transmit = desk.session.transmit := by
  unfold drop
  split
  · exact ⟨h, hw, rfl⟩
  · unfold Session.abandon
    split
    · exact ⟨h, hw, rfl⟩
    · exact ⟨h, hw, rfl⟩
  · rename_i task _ _
    unfold Ledger.release
    cases task.reservation? with
    | none => exact ⟨h, hw, rfl⟩
    | some r => exact ⟨h, by simp [withLedger, ledger, Ledger.drop, show
        desk.session.ledger.waiters = [] from hw], rfl⟩

/-- A call that waits for an acknowledgement fails like one that reserves the reply. -/
theorem acknowledge_of_cancelled {desk : Desk} (h : desk.ledger.closed = true)
    (hw : desk.ledger.waiters = []) {message : Message} {sequence : UInt32}
    (ha : (desk.session.add (Session.requestAck message)).outcome = .ok sequence)
    (name : String) (duration : Nat) :
    (desk.acknowledge name message duration).task? name = some (.finished (.failed .closed)) ∧
      (desk.acknowledge name message duration).ledger.waiters = [] := by
  obtain ⟨hdrop, hwaiters, htransmit⟩ := desk.drop_of_cancelled name h hw
  have hadd : ((desk.drop name).session.add (Session.requestAck message)).outcome =
      .ok sequence := by
    rw [← ha, Session.add, Session.add, htransmit]
  obtain ⟨ho, hl, -⟩ := Session.reserve_of_cancelled hdrop hadd
  have hcalled := drop_of_cancelled
    { desk.drop name with session := ((desk.drop name).session.reserve message).session } name
    (by rw [ledger, hl]; exact hdrop) (by rw [ledger, hl]; exact hwaiters)
  unfold acknowledge
  simp only [ho]
  exact ⟨by simp [keep, task?], hcalled.2.1⟩

end Desk

namespace Office

def Ended (past : List Event) : Prop := .closed ∈ past ∨ ∃ result, .stopped result ∈ past

variable {given : Message → Prop} {past events later : List Event} {office next last : Office}

theorem Ended.append (h : Ended past) (events : List Event) : Ended (past ++ events) :=
  h.imp (List.mem_append_left _) fun ⟨result, hm⟩ => ⟨result, List.mem_append_left _ hm⟩

theorem Ended.cancelled (h : Ended past) : .cancelled ∈ entries past :=
  cancelled_mem_entries.2 h

theorem Ended.ledger_closed (h : Ended past) (hb : Booked past office) :
    office.session.ledger.closed = true := hb.history.tied.closed.2 h.cancelled

/-- Nothing leaves the receive loop for the stream. -/
theorem Ended.still (h : Ended past) (hb : Booked past office) {loop : ReceiveLoop}
    (hl : office.session.receiving = .running loop) : office.session.closed = true := by
  rcases h with hc | ⟨result, hs⟩
  · exact hb.closed_iff.2 hc
  · rw [hb.stopped result hs] at hl
    cases hl

/-- Nobody awaits a reply. -/
theorem Ended.waiters (h : Ended past) (hb : Booked past office) :
    office.session.ledger.waiters = [] := by
  refine List.eq_nil_iff_forall_not_mem.2 fun r hm => ?_
  exact ((hb.history.tied.waits r).1 hm).isOpen.uncancelled h.cancelled

/-- What has happened to replies and to the stream since the end, where the queue was as given. -/
structure Spent (queue : List Message) (later : List Event) (office : Office) : Prop where
  unregistered : ∀ r, .registered r ∉ entries later
  undelivered : ∀ r reply, .delivered r reply ∉ entries later
  unforwarded : forwarded later = []
  queued : seen later ++ office.session.stream.queue <+: queue
  whole : office.session.stream.reader ≠ .dropped →
    seen later ++ office.session.stream.queue = queue

theorem Spent.start (office : Office) : Spent office.session.stream.queue [] office :=
  ⟨by simp, by simp, rfl, List.prefix_rfl, fun _ => rfl⟩

variable {queue : List Message}

/-- Where the stream keeps its queue. -/
theorem Spent.still (h : Spent queue later office)
    (hr : ∀ r, .registered r ∉ entries events)
    (hd : ∀ r reply, .delivered r reply ∉ entries events) (hf : forwarded events = [])
    (hs : seen events = [])
    (hq : next.session.stream.queue = office.session.stream.queue)
    (hreader : next.session.stream.reader ≠ .dropped →
      office.session.stream.reader ≠ .dropped) : Spent queue (later ++ events) next where
  unregistered := by
    intro r hm
    rw [entries_append] at hm
    exact (List.mem_append.1 hm).elim (h.unregistered r) (hr r)
  undelivered := by
    intro r reply hm
    rw [entries_append] at hm
    exact (List.mem_append.1 hm).elim (h.undelivered r reply) (hd r reply)
  unforwarded := by rw [forwarded_append, h.unforwarded, hf, List.append_nil]
  queued := by
    rw [seen_append, hs, hq, List.append_nil]
    exact h.queued
  whole := by
    rw [seen_append, hs, hq, List.append_nil]
    exact fun hn => h.whole (hreader hn)

theorem Spent.read (h : Spent queue later office) {message : Message} {stream : Stream}
    (hn : office.session.stream.next? = some (message, stream))
    (hs : next.session.stream = stream) : Spent queue (later ++ [.read message]) next := by
  obtain ⟨hqueue, hstream⟩ := Stream.next?_eq_some_iff.1 hn
  have heq : seen (later ++ [.read message]) ++ next.session.stream.queue =
      seen later ++ office.session.stream.queue := by
    have hseen : seen (later ++ [.read message]) = seen later ++ [message] := seen_append ..
    rw [hseen, hs, hqueue, List.append_assoc]
    rfl
  refine ⟨by simpa [Event.entry?] using h.unregistered,
    by simpa [Event.entry?] using h.undelivered, by simpa [forwarded] using h.unforwarded, ?_, ?_⟩
  · rw [heq]
    exact h.queued
  · rw [heq, hs, hstream]
    exact h.whole

theorem Spent.effect (h : Spent queue later office) (hend : Ended past)
    (hb : Booked past office) (he : Effect given office events next) :
    Spent queue (later ++ events) next := by
  cases he with
  | forward hl _ hc =>
    rw [hend.still hb hl] at hc
    cases hc
  | reserve _ _ hr =>
    have hc := hend.ledger_closed hb
    rw [(Ledger.of_register hr).1] at hc
    cases hc
  | deliver _ _ _ _ hw =>
    have hwaiters := hend.waiters hb
    rw [Ledger.waiter?, hwaiters] at hw
    cases hw
  | read hn => exact h.read hn rfl
  | @leave session held stream hs =>
    rcases hs with rfl | rfl
    · unfold Stream.close
      split
      · rename_i hr
        exact h.still (by simp) (by simp) rfl rfl rfl fun _ => by simp [hr]
      · exact h.still (by simp) (by simp) rfl rfl rfl id
    · refine ⟨by simpa using h.unregistered, by simpa using h.undelivered,
        by simpa using h.unforwarded, ?_, fun hn => absurd rfl hn⟩
      simp only [List.append_nil, Stream.drop]
      exact (List.prefix_append _ _).trans h.queued
  | close hc =>
    rw [close_of_open hc]
    refine h.still (by simp [Event.entry?]) (by simp [Event.entry?]) rfl rfl ?_ ?_ <;>
      dsimp only <;> split <;> simp [Stream.shut]
  | @crash session held receipt =>
    obtain ⟨sequence, reservation?⟩ := receipt
    cases reservation? <;>
      exact h.still (by simp [Event.entry?]) (by simp [Event.entry?]) rfl rfl rfl id
  | _ => exact h.still (by simp [Event.entry?]) (by simp [Event.entry?]) rfl rfl rfl id

/-- A reservation that outlives the end has its reply from before, or is cancelled. -/
theorem outcome_of_ended (hend : Ended past) (hb : Booked past office) {r : Reservation}
    (hr : r ∈ office.held ∨ pending? office.session = some r) (now : Nat)
    (deadline? : Option Nat) :
    (∀ reply, .delivered r reply ∈ entries past →
      r.outcome? office.session.ledger now deadline? = some (.ok reply)) ∧
    ((∀ reply, .delivered r reply ∉ entries past) →
      r.outcome? office.session.ledger now deadline? = some (.error .cancelled)) := by
  obtain ⟨hregistered, hkept⟩ := (hb.alive r).1 hr
  have htied := hb.history.tied
  refine ⟨fun reply hm => ?_, fun hnone => ?_⟩
  · have hs := (htied.standing_eq_answered_iff hregistered hkept).2 hm
    simp only [Reservation.outcome?, hs]
  · unfold Reservation.outcome?
    cases hs : office.session.ledger.standing r with
    | cancelled => rfl
    | answered reply =>
      exact absurd ((htied.standing_eq_answered_iff hregistered hkept).1 hs) (hnone reply)
    | awaiting =>
      have hopen := (htied.standing_eq_awaiting_iff hregistered hkept).1 hs
      exact absurd hend.cancelled hopen.uncancelled

/-- The end of the stream that messages go into is with the session, with a loop that runs, or
gone. -/
structure Piped (session : Session) : Prop where
  lent : session.stream.outlet = .lent → ∃ loop, session.receiving = .running loop
  stopped : ∀ result, session.receiving = .stopped result → session.stream.outlet = .gone
  closed : session.closed = true → session.stream.outlet ≠ .kept

theorem Piped.new (settings : Settings) (port : UInt32) (transport : Transport) :
    Piped (Session.new settings port transport) where
  lent := by simp [Session.new, Stream.new]
  stopped := by simp [Session.new]
  closed := by simp [Session.new]

theorem outlet_offer {stream after : Stream} {message : Message}
    (h : stream.offer message = some after) : after.outlet = stream.outlet := by
  rcases Stream.offer_eq_some_iff.1 h with ⟨-, rfl⟩ | ⟨-, -, rfl⟩ <;> rfl

theorem Piped.effect (h : Piped office.session) (he : Effect given office events next) :
    Piped next.session := by
  cases he with
  | start _ _ _ ho =>
    exact ⟨fun _ => ⟨_, rfl⟩, by simp, by simp⟩
  | ask | await | drop | deliver | retry | push | receive =>
    exact ⟨fun _ => ⟨_, rfl⟩, by simp, h.closed⟩
  | forward _ _ _ ho =>
    refine ⟨fun _ => ⟨_, rfl⟩, by simp, ?_⟩
    rw [outlet_offer ho]
    exact h.closed
  | founder | exhaust | stop =>
    exact ⟨by simp [Session.stop], fun _ _ => rfl, by simp [Session.stop]⟩
  | @close session held hc =>
    rw [close_of_open hc]
    refine ⟨?_, fun result hs => ?_, fun _ => ?_⟩
    · dsimp only
      split
      · simp
      · exact h.lent
    · have hgone : session.stream.outlet = .gone := h.stopped result hs
      simp [hgone]
    · dsimp only
      split
      · simp
      · assumption
  | read hn =>
    obtain ⟨-, hs⟩ := Stream.next?_eq_some_iff.1 hn
    rw [hs]
    exact ⟨h.lent, h.stopped, h.closed⟩
  | @leave session held stream hs =>
    have ho : stream.outlet = session.stream.outlet := by
      rcases hs with rfl | rfl
      · unfold Stream.close
        split <;> rfl
      · rfl
    exact ⟨by rw [ho]; exact h.lent, by rw [ho]; exact h.stopped, by rw [ho]; exact h.closed⟩
  | _ => exact ⟨h.lent, h.stopped, h.closed⟩

/-- After the end, with no loop running, the stream has ended once nothing is queued. -/
theorem isEnded_iff (h : Piped office.session) (hend : Ended past) (hb : Booked past office)
    (hl : ∀ loop, office.session.receiving ≠ .running loop) :
    office.session.stream.isEnded = true ↔ office.session.stream.queue = [] := by
  have hgone : office.session.stream.outlet = .gone := by
    rcases hend with hc | ⟨result, hs⟩
    · cases ho : office.session.stream.outlet with
      | kept => exact absurd ho (h.closed (hb.closed_iff.2 hc))
      | lent =>
        obtain ⟨loop, hr⟩ := h.lent ho
        exact absurd hr (hl loop)
      | gone => rfl
    · exact h.stopped result (hb.stopped result hs)
  simp [Stream.isEnded, hgone]

section

variable {session after : Session} {loop : ReceiveLoop}

theorem flight_take (session : Session) (loop : ReceiveLoop) (item : Except Fault (List UInt8))
    (rest : ReceiveBuffer) : (session.take loop item rest).flight? = session.flight? := by
  have hd : (session.dispatch item rest.namespaceId?).2.flight? = session.flight? := by
    rw [dispatch_eq]
    split
    · rfl
    · split <;> rfl
  unfold Session.take
  dsimp only
  split
  · exact hd
  · split
    · unfold Session.retry
      split <;> exact hd
    · exact hd

/-- A closed session's receive loop does not wait, unless for a flush. -/
theorem advance_closed (h : Steady session) (hc : session.closed = true)
    (hf : session.flight? = none) (hl : session.receiving = .running loop) :
    ∃ after, session.advance loop = some after ∧ after.flight? = none := by
  unfold Session.advance
  split
  · exact ⟨session.stop (.ok ()), by simp [Session.forward, hc], hf⟩
  · split
    · rename_i turn _
      have hadd := session.add_dump turn.request.kind turn.request.family
      obtain ⟨-, -, -, hnone⟩ := Session.beginSend_of_closed hc (congrArg Call.outcome hadd)
      refine ⟨_, by simp only [Session.ask, hf]; rfl, ?_⟩
      rw [Session.flight_depart]
      exact hnone
    · rename_i turn hp
      obtain ⟨sequence, left, hs⟩ := h.sending loop turn hl hp
      rw [hf] at hs
      cases hs
    · split
      · exact ⟨_, rfl, (flight_take ..).trans hf⟩
      · exact ⟨session.stop (.ok ()), by simp [Session.fill, hc], hf⟩

end

/-- Left to itself, the receive loop of a closed session comes to its end. -/
theorem loop_ends (hb : Booked past office) (hc : .closed ∈ past)
    (hf : office.session.flight? = none) :
    ∃ k last later, office.run (.replicate k .tick) = some (last, later) ∧
      last.session.flight? = none ∧ ∀ loop, last.session.receiving ≠ .running loop := by
  have hwf : WellFounded Session.Lower := WellFoundedRelation.wf
  -- on the rank, which every tick lowers; nothing else moves meanwhile
  induction hn : office.session.rank using hwf.induction generalizing office past with
  | _ rank ih =>
    have hclosed := hb.closed_iff.2 hc
    cases hr : office.session.receiving with
    | running loop =>
      obtain ⟨after, ha, hnone⟩ := advance_closed hb.steady hclosed hf hr
      have ht : office.session.tick = some after := by simp only [Session.tick, hr, ha]
      have hs : office.step .tick = some (office.withSession after,
          ticking office.session loop ++ ending after) := by
        simp only [step, hr, ha, Option.map_some]
      obtain ⟨k, last, later, hrun, hlast⟩ := ih _ (hn ▸ Session.lower_tick ht)
        (booked_step hb hs) (List.mem_append_left _ hc) hnone rfl
      exact ⟨k + 1, last, _, run_cons.2 ⟨_, _, later, hs, hrun, rfl⟩, hlast⟩
    | idle | stopped => exact ⟨0, office, [], rfl, hf, by simp [hr]⟩

/-- Flushes and the receive loop end, if nobody else does anything. -/
theorem Ended.settles (hend : Ended past) (hb : Booked past office) :
    ∃ actions last later, (∀ action ∈ actions, action = .tick ∨ action = .write) ∧
      office.run actions = some (last, later) ∧ last.session.flight? = none ∧
      ∀ loop, last.session.receiving ≠ .running loop := by
  -- first the flush under way, if there is one
  obtain ⟨actions, middle, earlier, hactions, hr, hf⟩ : ∃ actions middle earlier,
      (∀ action ∈ actions, action = .tick ∨ action = .write) ∧
        office.run actions = some (middle, earlier) ∧ middle.session.flight? = none := by
    cases hf : office.session.flight? with
    | none => exact ⟨[], office, [], by simp, rfl, hf⟩
    | some flight =>
      obtain ⟨k, -, middle, earlier, hr, hnone, -⟩ := flush_returns hb.steady hf
      refine ⟨_, middle, earlier, fun action hm => ?_, hr, hnone⟩
      obtain rfl := List.eq_of_mem_replicate hm
      unfold onward
      split
      · exact .inl rfl
      · exact .inr rfl
  have hmiddle := booked_run hb hr
  rcases hend.append earlier with hc | ⟨result, hs⟩
  · obtain ⟨k, last, later, hrun, hlast⟩ := loop_ends hmiddle hc hf
    refine ⟨_, last, _, fun action hm => ?_, run_append hr hrun, hlast⟩
    rcases List.mem_append.1 hm with hm | hm
    · exact hactions action hm
    · exact .inl (List.eq_of_mem_replicate hm)
  · exact ⟨actions, middle, earlier, hactions, hr, hf, by simp [hmiddle.stopped result hs]⟩

/-- What a closed session does with those who still call it: nothing. -/
structure Shut (office : Office) : Prop where
  send : ∀ message sequence, (office.session.add message).outcome = .ok sequence →
    (office.session.send message).outcome = .error .closed ∧
      (office.session.send message).session.transport = office.session.transport ∧
      (office.session.send message).session.transmit.bytes = []
  dump : ∀ kind family,
    (office.session.send (.dump kind family)).outcome = .error .closed ∧
      (office.session.send (.dump kind family)).session.transport = office.session.transport ∧
      (office.session.send (.dump kind family)).session.transmit.bytes = []
  flush : office.session.flush.1 = .error .closed ∧
    office.session.flush.2.transport = office.session.transport ∧
    office.session.flush.2.transmit.bytes = []
  close : office.step .close = some (office, [])

theorem Shut.of_closed (h : office.session.closed = true) : Shut office where
  send := fun _ _ ha => Session.send_of_closed h ha
  dump := fun kind family =>
    Session.send_of_closed h (congrArg Call.outcome (office.session.add_dump kind family))
  flush := Session.flush_of_closed h
  close := by
    have hclose : office.session.close = office.session := by simp [Session.close, h]
    simp [step, h, hclose, withSession]

/-- How it is after the end, whatever happens later. -/
structure Final (past : List Event) (office : Office) (later : List Event) (last : Office) :
    Prop where
  waiters : last.session.ledger.waiters = []
  /-- Who was handed a reply before the end still has it, -/
  answered : ∀ r, r ∈ last.held ∨ pending? last.session = some r →
    ∀ reply, .delivered r reply ∈ entries past → ∀ now deadline?,
      r.outcome? last.session.ledger now deadline? = some (.ok reply)
  /-- and everybody else is told that there will be none. -/
  cancelled : ∀ r, r ∈ last.held ∨ pending? last.session = some r →
    (∀ reply, .delivered r reply ∉ entries past) → ∀ now deadline?,
      r.outcome? last.session.ledger now deadline? = some (.error .cancelled)
  reserve : ∀ message sequence,
    (last.session.add (Session.requestAck message)).outcome = .ok sequence →
      (last.session.reserve message).outcome = .error .closed ∧
        (last.session.reserve message).session.ledger = last.session.ledger
  acknowledge : ∀ desk : Desk, desk.session = last.session → ∀ name message duration sequence,
    (last.session.add (Session.requestAck message)).outcome = .ok sequence →
      (desk.acknowledge name message duration).task? name = some (.finished (.failed .closed)) ∧
        (desk.acknowledge name message duration).ledger.waiters = []
  unforwarded : forwarded later = []
  /-- What was queued is read in its order, as long as the reader has not left. -/
  queued : seen later ++ last.session.stream.queue <+: office.session.stream.queue
  whole : last.session.stream.reader ≠ .dropped →
    seen later ++ last.session.stream.queue = office.session.stream.queue
  read : ∀ message queue, last.session.stream.queue = message :: queue →
    ∃ next, last.step .read = some (next, [.read message]) ∧
      next.session.stream.queue = queue
  ended : last.session.stream.isEnded = true → last.session.stream.queue = []
  dry : (∀ loop, last.session.receiving ≠ .running loop) →
    last.session.stream.queue = [] → last.session.stream.isEnded = true
  closed : .closed ∈ past → Shut last
  /-- Flushes under way and the receive loop come to their end. -/
  settles : ∃ actions final trace, (∀ action ∈ actions, action = .tick ∨ action = .write) ∧
    last.run actions = some (final, trace) ∧ final.session.flight? = none ∧
    ∀ loop, final.session.receiving ≠ .running loop

/-- The end of a session is final, whether it was closed or its receive loop has stopped, and in
whatever state that found it. -/
theorem run_final {settings : Settings} {port : UInt32} {transport : Transport}
    {actions : List Action} {past : List Event} {office : Office}
    (hr : (Office.new settings port transport).run actions = some (office, past))
    (hend : Ended past) {more : List Action} {last : Office} {later : List Event}
    (hm : office.run more = some (last, later)) : Final past office later last := by
  have hpast : Booked past office := booked_run (.new ..) hr
  have hlast := booked_run hpast hm
  have hended := hend.append later
  have hspent : Spent office.session.stream.queue later last := by
    -- together with the books, from which each step takes that the end lies behind it
    have hboth := (effects_run hpast.steady (fun action _ => given_true action) hm).keep
      (fun later office events next
        (h : Booked (past ++ later) office ∧ Spent _ later office) he =>
        ⟨List.append_assoc past later events ▸ h.1.effect he,
          h.2.effect (hend.append later) h.1 he⟩)
      [] ⟨(List.append_nil past).symm ▸ hpast, .start office⟩
    exact hboth.2
  have hpiped : Piped last.session :=
    keep_run (fun _ office => Piped office.session) (.new ..) (fun _ _ _ _ h he => h.effect he)
      (fun action _ => given_true action) (run_append hr hm)
  have hdelivered : ∀ r reply, .delivered r reply ∈ entries (past ++ later) ↔
      .delivered r reply ∈ entries past := by
    intro r reply
    simp [hspent.undelivered r reply]
  have hclosed := hended.ledger_closed hlast
  have hwaiters := hended.waiters hlast
  exact
    { waiters := hwaiters
      answered := fun r hr reply hd now deadline? =>
        (outcome_of_ended hended hlast hr now deadline?).1 reply ((hdelivered r reply).2 hd)
      cancelled := fun r hr hnone now deadline? =>
        (outcome_of_ended hended hlast hr now deadline?).2 fun reply hd =>
          hnone reply ((hdelivered r reply).1 hd)
      reserve := fun message sequence ha =>
        ⟨(Session.reserve_of_cancelled hclosed ha).1, (Session.reserve_of_cancelled hclosed ha).2.1⟩
      acknowledge := by
        rintro desk hd name message duration sequence ha
        rw [← hd] at hclosed hwaiters ha
        exact Desk.acknowledge_of_cancelled hclosed hwaiters ha name duration
      unforwarded := hspent.unforwarded
      queued := hspent.queued
      whole := hspent.whole
      read := by
        intro message queue hq
        have hn : last.session.stream.next? =
            some (message, { last.session.stream with queue }) := by
          simp only [Stream.next?, hq]
        exact ⟨_, by simp only [step, hn, Option.map_some]; rfl, rfl⟩
      ended := fun he => by
        simp only [Stream.isEnded, Bool.and_eq_true, List.isEmpty_iff] at he
        exact he.1
      dry := fun hl => (isEnded_iff hpiped hended hlast hl).2
      closed := fun hc => Shut.of_closed (hlast.closed_iff.2 (List.mem_append_left _ hc))
      settles := hended.settles hlast }

/-- Two replies are reserved and one comes, with a message behind it, before the session is
closed. -/
def closedAmidWaits : List Action :=
  [.listen [.noop], .reserve (.dump .getLink .packet), .write,
    .reserve (.dump .getAddress .inet), .write,
    .arrive (.datagram
      ([36, 0, 0, 0, 2, 0, 0, 0, 1, 0, 0, 0, 7, 0, 0, 0, 0, 0, 0, 0] ++
        [16, 0, 0, 0, 18, 0, 5, 0, 1, 0, 0, 0, 7, 0, 0, 0] ++
        [16, 0, 0, 0, 3, 0, 0, 0, 9, 0, 0, 0, 8, 0, 0, 0]) none),
    .tick, .tick, .tick, .tick, .close]

theorem run_final_closedAmidWaits :
    ∃ office past last later,
      (Office.new .standard 7 (.new none)).run closedAmidWaits = some (office, past) ∧
        Ended past ∧ office.run [.tick, .read] = some (last, later) ∧
        Final past office later last ∧ (seen later).length = 1 ∧
        (last.held.map fun r => (r.outcome? last.session.ledger 0 none).map
          TaskResult.ofAcknowledgement) = [some (.failed .cancelled), some .acknowledged] := by
  have h : (((Office.new .standard 7 (.new none)).run closedAmidWaits).any
      fun flown => flown.1.session.closed &&
        (flown.1.run [.tick, .read]).any fun after =>
          (seen after.2).length = 1 &&
            (after.1.held.map fun r => (r.outcome? after.1.session.ledger 0 none).map
              TaskResult.ofAcknowledgement) =
                [some (.failed .cancelled), some .acknowledged]) = true := by decide +kernel
  obtain ⟨⟨office, past⟩, hrun, h⟩ := (Option.any_eq_true ..).1 h
  simp only [Bool.and_eq_true, Option.any_eq_true, Prod.exists, decide_eq_true_eq] at h
  obtain ⟨hclosed, last, later, hmore, hseen, hheld⟩ := h
  have hend : Ended past := .inl ((booked_run (.new ..) hrun).closed_iff.1 hclosed)
  exact ⟨office, past, last, later, hrun, hend, hmore, run_final hrun hend hmore, hseen, hheld⟩

end Office
end RouteNetlink
