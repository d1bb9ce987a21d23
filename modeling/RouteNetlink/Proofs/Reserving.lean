import RouteNetlink.Proofs.Conveyance

/-! Calls that fail before anything is sent. A message that is refused leaves the transmit buffer
alone, but one whose reply cannot be reserved takes with it all that others had framed. -/
namespace RouteNetlink

namespace Transport

theorem accepted_of_send {transport : Transport} {bs : List UInt8} {n : Nat}
    (h : (transport.send bs).1 = .ok n) :
    (transport.send bs).2.accepted = transport.accepted ++ bs.take n := by
  have hs : transport.send bs = (.ok n, (transport.send bs).2) := by rw [← h]
  rw [accepted, sent_of_ok hs, List.reverse_cons, List.flatten_append]
  simp [accepted]

end Transport

def Progress.bytes : Progress → List UInt8
  | flying flight => flight.left
  | landed _ => []

namespace Session

/-- A flush that goes well sends all that is left of it. -/
theorem accepted_of_fly {session after : Session} {progress : Progress} {receipt : Receipt}
    (h : session.fly progress = (.ok receipt, after)) :
    after.transport.accepted = session.transport.accepted ++ progress.bytes := by
  -- on what is left; a write that fails leaves nothing to go on with
  induction hn : progress.left using Nat.strongRecOn generalizing session progress with
  | ind n ih =>
    cases progress with
    | landed result =>
      rw [fly] at h
      cases h
      exact (List.append_nil _).symm
    | flying flight =>
      have hlt := session.left_push flight
      rw [fly] at h
      have hrest := ih _ (hn ▸ hlt) h rfl
      rw [hrest]
      cases ho : Fault.ofSend? (session.transport.send flight.left).1 with
      | some fault =>
        rw [push_of_fault ho, Office.land_error, fly] at h
        cases h
      | none =>
        obtain ⟨n, hanswer⟩ := ofSend?_eq_none ho
        have haccepted := Transport.accepted_of_send hanswer
        rcases push_of_progress hanswer with ⟨hd, hp⟩ | hp
        · have htake : flight.left.take (n + 1) = flight.left :=
            List.take_of_length_le (List.drop_eq_nil_iff.1 hd)
          rw [hp]
          simp only [land, Progress.bytes, List.append_nil, haccepted, htake]
        · rw [hp]
          simp only [Progress.bytes, haccepted, List.append_assoc, List.take_append_drop]

theorem flush_eq (session : Session) :
    session.flush = (session.launch ⟨0, none⟩).2.fly (session.launch ⟨0, none⟩).1 := rfl

theorem accepted_of_flush {session after : Session} {receipt : Receipt}
    (h : session.flush = (.ok receipt, after)) :
    after.transport.accepted = session.transport.accepted ++ session.transmit.bytes := by
  rw [flush_eq] at h
  rcases session.launch_cases ⟨0, none⟩ with ⟨-, hl⟩ | ⟨-, hb, hl⟩ | ⟨-, -, hl⟩
  · rw [hl, Office.land_error, fly] at h
    cases h
  · rw [hl] at h
    rw [accepted_of_fly h, hb]
    rfl
  · rw [hl] at h
    exact accepted_of_fly h

/-- Where nothing is framed, there is nothing to flush. -/
theorem flush_of_empty {session : Session} (hc : session.closed = false)
    (hb : session.transmit.bytes = []) (hf : session.flight? = none) :
    session.flush = (.ok ⟨0, none⟩, session) := by
  obtain ⟨settings, port, ⟨bytes, _, _⟩, ledger, stream, transport, closed, listening, flight?,
    receiving⟩ := session
  subst hc hb hf
  simp [flush, launch, land, fly, TransmitBuffer.isEmpty, TransmitBuffer.clear]

/-- How a call that reserves a reply begins. -/
theorem beginReserve_cases (session : Session) (message : Message) :
    (∃ fault buffer, (session.add (requestAck message)).outcome = .error fault ∧
      (session.beginReserve message).outcome = .landed (.error fault) ∧
      (session.beginReserve message).session = { session with transmit := buffer } ∧
      session.transmit.Spared buffer) ∨
    (∃ fault, (session.add (requestAck message)).outcome = .ok session.transmit.nextSequence ∧
      session.ledger.register session.transmit.nextSequence = .error fault ∧
      (session.beginReserve message).outcome = .landed (.error fault) ∧
      (session.beginReserve message).session =
        { session with transmit := (session.transmit.holding (requestAck message)).clear }) ∨
    ∃ reservation ledger,
      session.ledger.register session.transmit.nextSequence = .ok (reservation, ledger) ∧
      ((session.beginReserve message).outcome, (session.beginReserve message).session) =
        launch
          { session with
            transmit := session.transmit.holding (requestAck message)
            ledger }
          ⟨session.transmit.nextSequence, some reservation⟩ := by
  have hsequence := Message.sequence_stamped (show (requestAck message).header.sequence = 0 from rfl)
    session.transmit
  rcases session.add_cases (requestAck message) with h | ⟨fault, buffer, ho, hs, -, hb⟩
  · right
    unfold beginReserve
    simp only [h, hsequence, true_and]
    cases session.ledger.register session.transmit.nextSequence with
    | error fault => exact .inl ⟨fault, rfl, rfl, rfl⟩
    | ok registered => exact .inr ⟨registered.1, registered.2, rfl, rfl⟩
  · left
    unfold beginReserve
    simp only [ho, hs]
    exact ⟨fault, buffer, rfl, rfl, rfl, hb⟩

/-- Once the ledger lets nobody in, the reply to a message that is framed cannot be reserved. -/
theorem beginReserve_of_cancelled {session : Session} (h : session.ledger.closed = true)
    {message : Message} {sequence : UInt32}
    (ha : (session.add (requestAck message)).outcome = .ok sequence) :
    (session.beginReserve message).outcome = .landed (.error .closed) ∧
      (session.beginReserve message).session =
        { session with transmit := (session.transmit.holding (requestAck message)).clear } := by
  have hregister := Ledger.register_of_closed h session.transmit.nextSequence
  rcases session.beginReserve_cases message with
    ⟨fault, buffer, ho, -⟩ | ⟨fault, -, hr, hl, hs⟩ | ⟨r, ledger, hr, -⟩
  · rw [ho] at ha
    cases ha
  · obtain rfl : Fault.closed = fault := by simpa [hregister] using hr
    exact ⟨hl, hs⟩
  · rw [hregister] at hr
    cases hr

end Session

namespace Office

variable {past : List Event} {office : Office}

/-- A call that reserves a reply and fails before anything is sent. -/
structure Unsent (past : List Event) (session : Session) (message : Message) (fault : Fault)
    (next : Session) : Prop where
  transport : next.transport = session.transport
  flight : next.flight? = none
  /-- Either the message was refused, or it was framed and the buffer is emptied. -/
  fate : (session.add (Session.requestAck message)).outcome = .error fault ∧
      next.transmit.bytes = session.transmit.bytes ∨
    (session.add (Session.requestAck message)).outcome = .ok session.transmit.nextSequence ∧
      next.transmit.bytes = [] ∧ next.flush = (.ok ⟨0, none⟩, next)
  /-- A reply can be reserved as long as the receive loop has not ended and no number is given
  again. -/
  unreserved : (session.add (Session.requestAck message)).outcome ≠ .error fault →
    (fault = .closed ∧ ∃ result, .stopped result ∈ past) ∨
      UInt32.size - 1 ≤ framings past
  /-- Whatever is left is sent by the next flush that goes well. -/
  flushed : ∀ receipt after, next.flush = (.ok receipt, after) →
    after.transport.accepted = session.transport.accepted ++ next.transmit.bytes

/-- What keeps a session that is not closed from reserving the reply to the next request. -/
theorem Accounted.unreserved {accepted : List UInt8} (h : Accounted accepted past office)
    (hc : office.session.closed = false) {fault : Fault}
    (hr : office.session.ledger.register office.session.transmit.nextSequence = .error fault) :
    (fault = .closed ∧ ∃ result, .stopped result ∈ past) ∨ UInt32.size - 1 ≤ framings past := by
  rcases Ledger.register_eq_error hr with ⟨hclosed, hfault⟩ | ⟨-, -, r, hw, hs⟩
  · left
    refine ⟨hfault, ?_⟩
    have hcancelled := cancelled_mem_entries.1 (h.booked.history.tied.closed.1 hclosed)
    refine hcancelled.resolve_left fun hm => ?_
    rw [h.booked.closed_iff.2 hm] at hc
    cases hc
  · obtain ⟨n, hd⟩ := h.drawn
    exact .inr (hd.round h.booked hw hs)

/-- In a session that was not closed, a call that reserves a reply fails unsent in one of two
ways, and loses what others had framed exactly in the second. -/
theorem run_reserve_unsent {settings : Settings} {port : UInt32} {transport : Transport}
    {actions : List Action} {past : List Event} {office : Office}
    (hr : (Office.new settings port transport).run actions = some (office, past))
    (hc : office.session.closed = false) (hf : office.session.flight? = none)
    {message : Message} {fault : Fault}
    (h : (office.session.beginReserve message).outcome = .landed (.error fault)) :
    Unsent past office.session message fault (office.session.beginReserve message).session := by
  have hpast := accounted_run hr
  rcases office.session.beginReserve_cases message with
    ⟨other, buffer, ho, hl, hs, hb⟩ | ⟨other, ho, hregister, hl, hs⟩ | ⟨r, ledger, -, hlaunch⟩
  · obtain rfl : other = fault := by simpa [hl] using h
    rw [hs]
    exact
      { transport := rfl
        flight := hf
        fate := .inl ⟨ho, hb.bytes⟩
        unreserved := fun hne => absurd ho hne
        flushed := fun receipt after => Session.accepted_of_flush }
  · obtain rfl : other = fault := by simpa [hl] using h
    rw [hs]
    exact
      { transport := rfl
        flight := hf
        fate := .inr ⟨ho, rfl, Session.flush_of_empty hc rfl hf⟩
        unreserved := fun _ => hpast.unreserved hc hregister
        flushed := fun receipt after => Session.accepted_of_flush }
  · -- an open session has something to send and starts to
    have hl := (congrArg Prod.fst hlaunch).symm.trans h
    have hclosed := (Session.closed_of_launch hl).1
    rw [hc] at hclosed
    cases hclosed

/-- The receive loop ends with a fault, and then a caller leaves a request. -/
def leftBehind : List Action :=
  [.listen [.noop], .arrive (.failure 104), .tick, .add (.dump .getLink .packet)]

/-- The session was not closed, but its ledger lets nobody in. -/
theorem run_leftBehind :
    ∃ office past, (Office.new .standard 7 (.new none)).run leftBehind = some (office, past) ∧
      office.session.closed = false ∧ office.session.flight? = none ∧
      office.session.ledger.closed = true ∧ office.session.transmit.bytes.length = 20 := by
  have h : (((Office.new .standard 7 (.new none)).run leftBehind).any fun flown =>
      !flown.1.session.closed && flown.1.session.flight?.isNone &&
        flown.1.session.ledger.closed && flown.1.session.transmit.bytes.length = 20) = true := by
    decide +kernel
  obtain ⟨⟨office, past⟩, hrun, h⟩ := (Option.any_eq_true ..).1 h
  simp only [Bool.and_eq_true, Bool.not_eq_true', Option.isNone_iff_eq_none,
    decide_eq_true_eq] at h
  obtain ⟨⟨⟨hc, hf⟩, hl⟩, hb⟩ := h
  exact ⟨office, past, hrun, hc, hf, hl, hb⟩

theorem run_reserve_unsent_leftBehind :
    ∃ office past, (Office.new .standard 7 (.new none)).run leftBehind = some (office, past) ∧
      Unsent past office.session (.dump .getAddress .inet) .closed
        (office.session.beginReserve (.dump .getAddress .inet)).session := by
  obtain ⟨office, past, hrun, hc, hf, hl, -⟩ := run_leftBehind
  have ha := congrArg Call.outcome (office.session.add_requestAck_dump .getAddress .inet)
  have ho := (Session.beginReserve_of_cancelled hl ha).1
  exact ⟨office, past, hrun, run_reserve_unsent hrun hc hf ho⟩

/-- The request that was left is lost: the call fails without a write, and the flush behind it
goes well and sends nothing. -/
theorem reserve_loses_leftBehind :
    ∃ office past, (Office.new .standard 7 (.new none)).run leftBehind = some (office, past) ∧
      office.session.closed = false ∧ office.session.transmit.bytes.length = 20 ∧
      (office.session.beginReserve (.dump .getAddress .inet)).outcome =
        .landed (.error .closed) ∧
      ∃ next, (office.session.beginReserve (.dump .getAddress .inet)).session = next ∧
        next.transport = office.session.transport ∧ next.transmit.bytes = [] ∧
        next.flush = (.ok ⟨0, none⟩, next) := by
  obtain ⟨office, past, hrun, hc, hf, hl, hb⟩ := run_leftBehind
  have ha := congrArg Call.outcome (office.session.add_requestAck_dump .getAddress .inet)
  obtain ⟨ho, hs⟩ := Session.beginReserve_of_cancelled hl ha
  exact ⟨office, past, hrun, hc, hb, ho, _, hs, rfl, rfl, Session.flush_of_empty hc rfl hf⟩

end Office
end RouteNetlink
