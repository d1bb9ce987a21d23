import RouteNetlink.Proofs.Effects
import RouteNetlink.Session.Settle

/-! Actions as effects: what each call and each step of the receive loop is made of. -/
namespace RouteNetlink

namespace Transport

theorem sent_of_ok {transport after : Transport} {bs : List UInt8} {n : Nat}
    (h : transport.send bs = (.ok n, after)) : after.sent = bs.take n :: transport.sent := by
  unfold send at h
  split at h
  · cases h
  · cases h
    simp [List.length_take]
  · cases h
    cases transport.maxWrite? <;> simp [List.length_take]

theorem sent_of_error {transport after : Transport} {bs : List UInt8} {code : Int32}
    (h : transport.send bs = (.error code, after)) : after.sent = transport.sent := by
  unfold send at h
  split at h
  · cases h
    rfl
  · cases h
  · cases h

theorem sent_of_receive? {transport after : Transport} {arrival : Arrival}
    (h : transport.receive? = some (arrival, after)) : after.sent = transport.sent := by
  unfold receive? at h
  split at h
  · cases h
    rfl
  · split at h
    · cases h
      rfl
    · cases h

theorem sent_of_deliver {transport after : Transport} {arrival : Arrival}
    (h : transport.deliver arrival = some after) : after.sent = transport.sent := by
  unfold deliver at h
  split at h
  · cases h
  · cases h
    rfl

end Transport

namespace Ledger

theorem isKernel_of_register {ledger : Ledger} {sequence : UInt32} {fault : Fault}
    (h : ledger.register sequence = .error fault) : fault.isKernel = false := by
  unfold register at h
  split at h
  · cases h
    rfl
  · split at h
    · cases h
      rfl
    · cases h

end Ledger

namespace Session

/-- A message is added as it is stamped, or refused. -/
theorem add_cases (session : Session) (message : Message) :
    session.add message =
      ⟨.ok (message.stamped session.transmit).header.sequence, message.stamped session.transmit,
        { session with transmit := session.transmit.holding message }⟩ ∨
    ∃ fault buffer, (session.add message).outcome = .error fault ∧
      (session.add message).session = { session with transmit := buffer } ∧
      fault.isKernel = false ∧ session.transmit.Spared buffer := by
  rcases message.frame_cases session.transmit with h | ⟨fault, hf, hk, hs⟩
  · exact .inl (by simp [add, h])
  · exact .inr ⟨fault, _, by simp [add, hf], rfl, hk, hs⟩

theorem add_dump (session : Session) (kind : RecordKind) (family : Family) :
    session.add (.dump kind family) =
      ⟨.ok ((Message.dump kind family).stamped session.transmit).header.sequence,
        (Message.dump kind family).stamped session.transmit,
        { session with transmit := session.transmit.holding (.dump kind family) }⟩ := by
  simp [add, Message.frame_dump]

/-- A request for a dump can be framed, also where it asks for an acknowledgement. -/
theorem add_requestAck_dump (session : Session) (kind : RecordKind) (family : Family) :
    session.add (requestAck (.dump kind family)) =
      ⟨.ok session.transmit.nextSequence,
        (requestAck (.dump kind family)).stamped session.transmit,
        { session with
          transmit := session.transmit.holding (requestAck (.dump kind family)) }⟩ := by
  have hframe := Message.frame_of_fits
    (show (requestAck (.dump kind family)).body.fits = true from rfl)
    (show Header.size + 1 < UInt32.size by decide) session.transmit
  rw [add, hframe]
  rfl

end Session

namespace Office

variable {given : Message → Prop} {session : Session} {held : List Reservation}

theorem effects_add {message : Message} (hf : session.flight? = none) (hg : given message) :
    Effects given ⟨session, held⟩ [framing session .plain message]
      ⟨(session.add message).session, held⟩ := by
  rcases session.add_cases message with h | ⟨fault, buffer, ho, hs, hk, hb⟩
  · simp only [framing, h]
    exact .single (.frame hf hg)
  · simp only [framing, ho, hs]
    exact .single (.refuse hf hk hb)

theorem effects_land_ok {receipt : Receipt} (hf : session.flight? = some ⟨receipt, []⟩)
    (ha : Apart session) :
    Effects given ⟨session, held⟩ (landing receipt.reservation? (session.land receipt (.ok ())).1)
      ⟨(session.land receipt (.ok ())).2, handed (session.land receipt (.ok ())).1 ++ held⟩ :=
  .single (.land hf ha)

/-- The session after a flush that failed. -/
theorem land_error (session : Session) (receipt : Receipt) (fault : Fault) :
    session.land receipt (.error fault) =
      (.landed (.error fault),
        { session with
          transmit := session.transmit.clear
          flight? := none
          ledger := receipt.reservation?.elim session.ledger session.ledger.drop }) := by
  cases hr : receipt.reservation? <;> simp [Session.land, hr, Session.dropReservation]

theorem effects_land_error {receipt : Receipt} {left : List UInt8} {fault : Fault}
    (hf : session.flight? = some ⟨receipt, left⟩) (ha : Apart session)
    (hk : fault.isKernel = false) :
    Effects given ⟨session, held⟩
      (landing receipt.reservation? (session.land receipt (.error fault)).1)
      ⟨(session.land receipt (.error fault)).2,
        handed (session.land receipt (.error fault)).1 ++ held⟩ := by
  rw [land_error]
  exact .single (.crash hf ha hk)

/-- A flush that is about to start: it ends at once, or goes on by writes. -/
theorem effects_launch (session : Session) {receipt : Receipt} (ha : Apart session) :
    Effects given
      ⟨{ session with flight? := some ⟨receipt, session.transmit.bytes⟩ }, held⟩
      (landing receipt.reservation? (session.launch receipt).1)
      ⟨(session.launch receipt).2, handed (session.launch receipt).1 ++ held⟩ := by
  unfold Session.launch
  split
  · exact effects_land_error rfl ha rfl
  · split
    · rename_i he
      have hb : session.transmit.bytes = [] := by simpa [TransmitBuffer.isEmpty] using he
      rw [hb]
      exact effects_land_ok rfl ha
    · exact .refl _

theorem effects_push {flight : Flight} (hf : session.flight? = some flight)
    (ha : Apart session) :
    Effects given ⟨session, held⟩ (writing session flight)
      ⟨(session.push flight).2, handed (session.push flight).1 ++ held⟩ := by
  obtain ⟨receipt, bytes⟩ := flight
  unfold writing Session.push
  cases hs : session.transport.send bytes with
  | mk accepted transport =>
    cases accepted with
    | error code =>
      exact .head (.arrange transport (Transport.sent_of_error hs))
        (effects_land_error hf ha rfl)
    | ok n =>
      have hsent := Transport.sent_of_ok hs
      have hw : session.flight? = some ⟨receipt, bytes.take n ++ bytes.drop n⟩ := by
        rw [List.take_append_drop, hf]
      have write : Effect given ⟨session, held⟩ [.wrote (bytes.take n)]
          ⟨{ session with transport, flight? := some ⟨receipt, bytes.drop n⟩ }, held⟩ :=
        .write hw hsent
      cases n with
      | zero => exact .head write (effects_land_error rfl ha rfl)
      | succ n =>
        dsimp only
        cases hd : bytes.drop (n + 1) with
        | nil =>
          rw [hd] at write
          exact .head write (effects_land_ok rfl ha)
        | cons b left =>
          rw [hd] at write
          exact .head write (.refl _)

theorem handed_launch (session : Session) (sequence : UInt32) :
    handed (session.launch ⟨sequence, none⟩).1 = [] := by
  unfold Session.launch
  split
  · rfl
  · split <;> rfl

theorem effects_flush {sequence : UInt32} (ha : Apart session)
    (hf : session.flight? = none) :
    Effects given ⟨session, held⟩ (landing none (session.launch ⟨sequence, none⟩).1)
      ⟨(session.launch ⟨sequence, none⟩).2, held⟩ := by
  have hl : Effects given _ _ ⟨_, handed (session.launch ⟨sequence, none⟩).1 ++ held⟩ :=
    effects_launch session ha
  rw [handed_launch] at hl
  exact .head (.launch sequence hf) hl

/-- Where a message is framed, the rest of a call is its flush. -/
theorem sending_of_add {message stamped : Message} {sequence : UInt32} {next : Session}
    (ha : session.add message = ⟨.ok sequence, stamped, next⟩) (purpose : Purpose) :
    sending session purpose message =
      [framing session purpose message] ++ landing none (next.launch ⟨sequence, none⟩).1 := by
  simp only [sending, ha, List.singleton_append]

theorem beginSend_of_add {message stamped : Message} {sequence : UInt32} {next : Session}
    (ha : session.add message = ⟨.ok sequence, stamped, next⟩) :
    session.beginSend message =
      ⟨(next.launch ⟨sequence, none⟩).1, stamped, (next.launch ⟨sequence, none⟩).2⟩ := by
  simp only [Session.beginSend, ha]

theorem effects_beginSend {message : Message} (ha : Apart session)
    (hf : session.flight? = none) (hg : given message) :
    Effects given ⟨session, held⟩ (sending session .plain message)
      ⟨(session.beginSend message).session, held⟩ := by
  have hadd : Effects given ⟨session, held⟩ _ ⟨_, held⟩ := effects_add hf hg
  rcases session.add_cases message with h | ⟨fault, buffer, ho, -, -, -⟩
  · rw [sending_of_add h, beginSend_of_add h]
    rw [h] at hadd
    exact hadd.trans (effects_flush ha hf)
  · simp only [sending, Session.beginSend, ho]
    exact hadd

theorem effects_beginReserve {message : Message} (ha : Apart session)
    (hf : session.flight? = none) :
    Effects given ⟨session, held⟩ (reserving session message)
      ⟨(session.beginReserve message).session,
        handed (session.beginReserve message).outcome ++ held⟩ := by
  unfold reserving Session.beginReserve
  rcases session.add_cases (Session.requestAck message) with h | ⟨fault, buffer, ho, hs, hk, hb⟩
  · simp only [h, framing]
    cases hr : session.ledger.register
        ((Session.requestAck message).stamped session.transmit).header.sequence with
    | error fault =>
      exact .single (.unreserve hf rfl (Ledger.isKernel_of_register hr) hr)
    | ok registered =>
      exact .head (.reserve hf rfl hr) (effects_launch { session with
        transmit := session.transmit.holding (Session.requestAck message)
        ledger := registered.2 } ha)
  · simp only [framing, ho, hs]
    exact .single (.refuse hf hk hb)

/-- The receive loop's own flush is over, and it awaits the dump. -/
theorem effects_depart_ok (session : Session) {loop base : ReceiveLoop} {turn : DumpTurn}
    {sequence : UInt32} (hl : session.receiving = .running loop)
    (hb : loop = { base with phase := .sending turn })
    (hf : session.flight? = some ⟨⟨sequence, none⟩, []⟩) :
    Effects given ⟨session, held⟩
      (landing none (session.land ⟨sequence, none⟩ (.ok ())).1 ++
        ending (Session.depart (session.land ⟨sequence, none⟩ (.ok ())).2 base turn
          (session.land ⟨sequence, none⟩ (.ok ())).1))
      ⟨Session.depart (session.land ⟨sequence, none⟩ (.ok ())).2 base turn
        (session.land ⟨sequence, none⟩ (.ok ())).1, held⟩ := by
  have hph : loop.phase = .sending turn := by rw [hb]
  have he : Effect given ⟨session, held⟩ _ _ := .await hl hph hf
  subst hb
  exact .single he

/-- Where the flush fails, the loop stops. -/
theorem effects_depart_error (session : Session) {loop base : ReceiveLoop} {turn : DumpTurn}
    {sequence : UInt32} {left : List UInt8} {fault : Fault}
    (hl : session.receiving = .running loop) (hb : loop = { base with phase := .sending turn })
    (hp : loop.parked? = none) (hf : session.flight? = some ⟨⟨sequence, none⟩, left⟩)
    (hk : fault.isKernel = false) :
    Effects given ⟨session, held⟩
      (landing none (session.land ⟨sequence, none⟩ (.error fault)).1 ++
        ending (Session.depart (session.land ⟨sequence, none⟩ (.error fault)).2 base turn
          (session.land ⟨sequence, none⟩ (.error fault)).1))
      ⟨Session.depart (session.land ⟨sequence, none⟩ (.error fault)).2 base turn
        (session.land ⟨sequence, none⟩ (.error fault)).1, held⟩ := by
  have hph : loop.phase = .sending turn := by rw [hb]
  rw [land_error]
  cases fault with
  | closed => exact .single (.founder hl hp hph hf rfl (by simp))
  | kernel => cases hk
  | _ => exact .single (.founder hl hp hph hf rfl (by rintro _ ⟨⟩; rfl))

theorem resume_self {loop : ReceiveLoop} (hl : session.receiving = .running loop) :
    session.resume loop = session := by
  rw [Session.resume, ← hl]

theorem effects_ask {loop : ReceiveLoop} {turn : DumpTurn} {next : Session}
    (hl : session.receiving = .running loop) (hp : loop.parked? = none)
    (ha : loop.phase = .asking turn) (hn : session.ask loop turn = some next) :
    Effects given ⟨session, held⟩
      (sending session (.dump turn) (.dump turn.request.kind turn.request.family) ++ ending next)
      ⟨next, held⟩ := by
  unfold Session.ask at hn
  split at hn
  · cases hn
  · rename_i hf
    cases hn
    have hadd := session.add_dump turn.request.kind turn.request.family
    rw [sending_of_add hadd, beginSend_of_add hadd, List.append_assoc]
    let stamped := (Message.dump turn.request.kind turn.request.family).stamped session.transmit
    let asked : Session := { session with
      transmit := session.transmit.holding (.dump turn.request.kind turn.request.family)
      flight? := some ⟨⟨stamped.header.sequence, none⟩,
        (session.transmit.holding (.dump turn.request.kind turn.request.family)).bytes⟩
      receiving := .running { loop with phase := .sending turn } }
    have hask : Effect given ⟨session, held⟩ [.framed (.dump turn) stamped] ⟨asked, held⟩ :=
      .ask hl hp ha hf rfl
    simp only [framing, hadd]
    refine .head hask ?_
    unfold Session.launch
    split
    · exact effects_depart_error asked rfl rfl hp rfl rfl
    · split
      · rename_i he
        have hb : asked.transmit.bytes = [] := by simpa [TransmitBuffer.isEmpty] using he
        exact effects_depart_ok asked rfl rfl (by rw [← hb])
      · exact .refl _

theorem effects_sail {loop : ReceiveLoop} {turn : DumpTurn} {flight : Flight}
    (h : Steady session) (hl : session.receiving = .running loop) (hp : loop.parked? = none)
    (ha : loop.phase = .sending turn) (hf : session.flight? = some flight) :
    Effects given ⟨session, held⟩
      (writing session flight ++
        ending (Session.depart (session.push flight).2 loop turn (session.push flight).1))
      ⟨Session.depart (session.push flight).2 loop turn (session.push flight).1, held⟩ := by
  obtain ⟨sequence, bytes, hs⟩ := h.sending loop turn hl ha
  obtain rfl : flight = ⟨⟨sequence, none⟩, bytes⟩ := by simpa [hf] using hs
  have hb : loop = { loop with phase := .sending turn } := by rw [← ha]
  unfold writing Session.push
  rw [List.append_assoc]
  cases hsend : session.transport.send bytes with
  | mk accepted transport =>
    cases accepted with
    | error code =>
      exact .head (.arrange transport (Transport.sent_of_error hsend))
        (effects_depart_error { session with transport } hl hb hp hf rfl)
    | ok n =>
      have hsent := Transport.sent_of_ok hsend
      have hw : session.flight? = some ⟨⟨sequence, none⟩, bytes.take n ++ bytes.drop n⟩ := by
        rw [List.take_append_drop, hf]
      let wrote : Session :=
        { session with transport, flight? := some ⟨⟨sequence, none⟩, bytes.drop n⟩ }
      have write : Effect given ⟨session, held⟩ [.wrote (bytes.take n)] ⟨wrote, held⟩ :=
        .write hw hsent
      cases n with
      | zero =>
        exact .head write (effects_depart_error wrote hl hb hp rfl rfl)
      | succ n =>
        have hw : wrote.receiving = .running { loop with phase := .sending turn } := hb ▸ hl
        dsimp only
        cases hd : bytes.drop (n + 1) with
        | nil => exact .head write (effects_depart_ok wrote hl hb (by rw [← hd]))
        | cons b left =>
          have hr : wrote.resume { loop with phase := .sending turn } = wrote := resume_self hw
          have he : ending wrote = [] := by simp only [ending, hw]
          simp only [wrote, hd] at hr he write
          simp only [Session.depart, hr, he]
          exact .head write (.refl _)

/-- Dispatching a record: whoever awaits it gets it, or it is handed back. -/
theorem dispatch_eq (session : Session) (item : Except Fault (List UInt8))
    (namespaceId? : Option Int32) :
    session.dispatch item namespaceId? =
      match heard item namespaceId? with
      | none => (none, session)
      | some message =>
        match (answer? session.port message).bind session.ledger.resolve with
        | some ledger => (none, { session with ledger })
        | none => (some message, session) := by
  unfold Session.dispatch heard answer?
  cases item.bind Message.decode with
  | error fault => rfl
  | ok message =>
    dsimp only [Except.toOption, Option.map]
    cases Message.reply? _ with
    | none => rfl
    | some reply =>
      dsimp only [Option.filter]
      by_cases hp : reply.request.port = session.port
      · cases hr : session.ledger.resolve reply <;> simp [hp, hr]
      · simp [hp]

/-- Only the failure of an awaited dump ends it. -/
theorem failure?_eq_some {port : UInt32} {message : Message} {phase : Phase} {turn : DumpTurn}
    {code : Int32} (h : phase.failure? port message = some (turn, code)) :
    ∃ reply sequence, answer? port message = some reply ∧ phase = .awaiting turn sequence ∧
      reply.request.sequence = sequence ∧ reply.code = code ∧ code ≠ 0 := by
  unfold Phase.failure? at h
  split at h
  · rename_i current sequence
    split at h
    · rename_i reply hr
      split at h
      · rename_i hc
        cases h
        obtain ⟨hack, hs, hp⟩ := hc
        refine ⟨reply, sequence, by simp [answer?, hr, hp, Option.filter], rfl, hs, rfl, ?_⟩
        simpa [Reply.isAck] using hack
      · cases h
    · cases h
  · cases h

theorem failure?_eq_none {port : UInt32} {message : Message} {phase : Phase}
    (h : phase.failure? port message = none) {reply : Reply} {turn : DumpTurn}
    {sequence : UInt32} (ha : answer? port message = some reply)
    (hp : phase = .awaiting turn sequence) (hs : reply.request.sequence = sequence) :
    reply.code = 0 := by
  obtain ⟨hr, hport⟩ := Option.filter_eq_some_iff.1 ha
  subst hp
  simp only [Phase.failure?, hr, Reply.isAck] at h
  by_contra hc
  simp_all

theorem effects_take {loop : ReceiveLoop} {item : Except Fault (List UInt8)}
    {rest : ReceiveBuffer} (hl : Ready session loop)
    (hn : loop.buffer.next? = some (item, rest)) :
    Effects given ⟨session, held⟩
      (.took loop.phase item rest.namespaceId?
        (fate session loop.phase item rest.namespaceId?) :: ending (session.take loop item rest))
      ⟨session.take loop item rest, held⟩ := by
  unfold Session.take fate
  dsimp only
  rw [dispatch_eq]
  cases hh : heard item rest.namespaceId? with
  | none => exact .single (.drop hl hn hh)
  | some message =>
    dsimp only
    cases ha : answer? session.port message with
    | none =>
      simp only [Option.bind_none]
      have hf : loop.phase.failure? session.port message = none := by
        by_contra hne
        obtain ⟨⟨turn, code⟩, hf⟩ := Option.ne_none_iff_exists'.1 hne
        obtain ⟨reply, -, hr, -⟩ := failure?_eq_some hf
        simp [ha] at hr
      simp only [hf]
      exact .single (.push hl hn hh (by simp [ha]))
    | some reply =>
      simp only [Option.bind_some]
      cases hw : session.ledger.waiter? reply.request.sequence with
      | some reservation =>
        obtain ⟨ledger, hr⟩ : ∃ ledger, session.ledger.resolve reply = some ledger := by
          simp [Ledger.resolve, hw]
        simp only [hr, Option.map_some]
        exact .single (.deliver hl hn hh ha hw hr)
      | none =>
        have hr : session.ledger.resolve reply = none := by simp [Ledger.resolve, hw]
        simp only [hr, Option.map_none]
        cases hf : loop.phase.failure? session.port message with
        | none =>
          refine .single (.push hl hn hh ?_)
          rintro other ho
          obtain rfl : reply = other := by simpa [ha] using ho
          exact ⟨hw, fun _ _ hp hs => failure?_eq_none hf ha hp hs⟩
        | some failure =>
          obtain ⟨turn, code⟩ := failure
          obtain ⟨other, sequence, ho, hp, hs, rfl, hc⟩ := failure?_eq_some hf
          obtain rfl : reply = other := by simpa [ha] using ho
          dsimp only
          unfold Session.retry
          split
          · exact .single (.retry hl hn hh ha hw hp hs hc ‹_›)
          · exact .single (.exhaust hl hn hh ha hw hp hs hc (Nat.not_lt.1 ‹_›))

theorem effects_fill {loop : ReceiveLoop} {next : Session} (hl : Ready session loop)
    (hn : loop.buffer.next? = none) (hf : session.fill loop = some next) :
    Effects given ⟨session, held⟩
      ((if session.closed then []
        else
          match session.transport.receive? with
          | some (.datagram (b :: bs) namespaceId?, _) => [.received (b :: bs) namespaceId?]
          | _ => []) ++ ending next)
      ⟨next, held⟩ := by
  unfold Session.fill at hf
  split at hf
  · rename_i hc
    cases hf
    rw [if_pos hc]
    exact .single (.stop hl.running (.inr hc) hl.unasking hl.unsending (by simp))
  · rename_i hc
    obtain ⟨⟨arrival, transport⟩, hr, rfl⟩ := Option.map_eq_some_iff.1 hf
    have ht := Transport.sent_of_receive? hr
    rw [if_neg hc, hr]
    have arrange : Effect given ⟨session, held⟩ [] ⟨{ session with transport }, held⟩ :=
      .arrange transport ht
    match arrival with
    | .failure code =>
      exact .head arrange
        (.single (.stop hl.running (.inl hl.unparked) hl.unasking hl.unsending
          (by rintro _ ⟨⟩; rfl)))
    | .datagram [] _ =>
      exact .head arrange
        (.single (.stop hl.running (.inl hl.unparked) hl.unasking hl.unsending
          (by rintro _ ⟨⟩; rfl)))
    | .datagram (b :: bs) namespaceId? =>
      exact .single (.receive hl hn ht)

theorem effects_forward {loop : ReceiveLoop} {message : Message} {next : Session}
    (h : Steady session) (hl : session.receiving = .running loop)
    (hp : loop.parked? = some message) (hf : session.forward loop message = some next) :
    Effects given ⟨session, held⟩
      ((if session.closed then [] else [.forwarded message]) ++ ending next) ⟨next, held⟩ := by
  obtain ⟨ha, hs⟩ := h.parked loop hl (by simp [hp])
  unfold Session.forward at hf
  split at hf
  · rename_i hc
    cases hf
    rw [if_pos hc]
    exact .single (.stop hl (.inr hc) ha hs (by simp))
  · rename_i hc
    obtain ⟨stream, ho, rfl⟩ := Option.map_eq_some_iff.1 hf
    rw [if_neg hc]
    exact .single (.forward hl hp (by simpa using hc) ho)

theorem ticking_of_ready {loop : ReceiveLoop} (h : Ready session loop) :
    ticking session loop = reading session loop := by
  simp only [ticking, h.unparked]
  split
  · exact absurd ‹_› (h.unasking _)
  · exact absurd ‹_› (h.unsending _)
  · rfl

/-- A step of the receive loop. -/
theorem effects_advance {loop : ReceiveLoop} {next : Session} (h : Steady session)
    (hl : session.receiving = .running loop) (hn : session.advance loop = some next) :
    Effects given ⟨session, held⟩ (ticking session loop ++ ending next) ⟨next, held⟩ := by
  unfold Session.advance at hn
  split at hn
  · rename_i message hp
    simp only [ticking, hp]
    exact effects_forward h hl hp hn
  · rename_i hp
    split at hn
    · rename_i turn ha
      simp only [ticking, hp, ha]
      exact effects_ask hl hp ha hn
    · rename_i turn ha
      obtain ⟨flight, hf, rfl⟩ := Option.map_eq_some_iff.1 hn
      simp only [ticking, hp, ha, hf]
      exact effects_sail h hl hp ha hf
    · rename_i hna hns
      have hready : Ready session loop := ⟨hl, hp, hna, hns⟩
      rw [ticking_of_ready hready, reading]
      cases hnext : loop.buffer.next? with
      | some taken =>
        obtain ⟨item, rest⟩ := taken
        simp only [hnext] at hn ⊢
        cases hn
        exact effects_take hready hnext
      | none =>
        simp only [hnext] at hn ⊢
        exact effects_fill hready hnext hn

theorem effects_listen (hi : session.listening = false → session.receiving = .idle)
    (requests : List DumpRequest) :
    Effects given ⟨session, held⟩
      (match (session.listen requests).1 with
        | .ok () => [.started requests]
        | .error _ => [])
      ⟨(session.listen requests).2, held⟩ := by
  cases hl : session.listening with
  | true =>
    simp only [Session.listen, hl, if_true]
    exact .refl _
  | false =>
    by_cases ho : session.stream.outlet = .kept
    · simp only [Session.listen, hl, ho]
      exact .single (.start requests hl (hi hl) ho)
    · simp only [Session.listen, hl, ho, Bool.false_eq_true, if_false, ne_eq,
        not_false_eq_true, if_true]
      exact .single .lapse

theorem Steady.new (settings : Settings) (port : UInt32) (transport : Transport) :
    Steady (Session.new settings port transport) :=
  ⟨by simp [Session.new], by simp [Session.new], fun _ => rfl⟩

/-- What a caller may hand in, of all that an action hands in. -/
def Action.Given (given : Message → Prop) : Action → Prop
  | .add message => given message
  | .send message => given message
  | _ => True

/-- Whatever an action hands in, it may be anything. -/
theorem given_true (action : Action) : action.Given fun _ => True := by
  cases action <;> trivial

/-- Every action is made of effects. -/
theorem effects_step {office next : Office} {action : Action} {events : List Event}
    (h : Steady office.session) (hg : action.Given given)
    (hs : office.step action = some (next, events)) : Effects given office events next := by
  obtain ⟨session, held⟩ := office
  cases action with
  | listen requests =>
    have he : Effects given ⟨session, held⟩ _ _ := effects_listen h.idle requests
    simp only [step] at hs
    split at hs
    · rename_i hl
      cases hs
      rwa [hl] at he
    · rename_i hl
      cases hs
      rwa [hl] at he
  | tick =>
    simp only [step] at hs
    split at hs
    · rename_i loop hl
      obtain ⟨after, ha, hs⟩ := Option.map_eq_some_iff.1 hs
      cases hs
      exact effects_advance h hl ha
    · cases hs
  | add message =>
    simp only [step] at hs
    split at hs
    · cases hs
      exact effects_add (Option.isNone_iff_eq_none.1 ‹_›) hg
    · cases hs
  | send message =>
    simp only [step] at hs
    split at hs
    · cases hs
      have hf : session.flight? = none := Option.isNone_iff_eq_none.1 ‹_›
      exact effects_beginSend (h.apart hf) hf hg
    · cases hs
  | flush =>
    simp only [step] at hs
    split at hs
    · cases hs
      have hf : session.flight? = none := Option.isNone_iff_eq_none.1 ‹_›
      exact effects_flush (h.apart hf) hf
    · cases hs
  | reserve message =>
    simp only [step] at hs
    split at hs
    · cases hs
      have hf : session.flight? = none := Option.isNone_iff_eq_none.1 ‹_›
      exact effects_beginReserve (h.apart hf) hf
    · cases hs
  | write =>
    simp only [step] at hs
    split at hs
    · rename_i flight hf
      split at hs
      · cases hs
      · cases hs
        exact effects_push hf (apart_of_isAsking (Bool.eq_false_of_not_eq_true ‹_›))
    · cases hs
  | finish task now =>
    simp only [step] at hs
    split at hs
    · rename_i reservation result ht hr
      split at hs
      · cases hs
        exact .head (.finish ht hr ‹_›) (.single (.release ‹_›))
      · cases hs
    · cases hs
  | drop reservation =>
    simp only [step] at hs
    split at hs
    · cases hs
      exact .single (.release ‹_›)
    · cases hs
  | close =>
    cases hs
    dsimp only
    split
    · rename_i hc
      have : session.close = session := by simp [Session.close, hc]
      rw [withSession, this]
      exact .refl _
    · exact .single (.close (Bool.eq_false_of_not_eq_true ‹_›))
  | arrive arrival =>
    obtain ⟨transport, ht, hs⟩ := Option.map_eq_some_iff.1 hs
    cases hs
    exact .single (.arrange transport (Transport.sent_of_deliver ht))
  | hangUp | rule =>
    cases hs
    exact .single (.arrange _ rfl)
  | read =>
    obtain ⟨⟨message, stream⟩, hn, hs⟩ := Option.map_eq_some_iff.1 hs
    cases hs
    exact .single (.read hn)
  | closeStream =>
    cases hs
    exact .single (.leave (.inl rfl))
  | dropStream =>
    cases hs
    exact .single (.leave (.inr rfl))

theorem run_cons {office last : Office} {action : Action} {actions : List Action}
    {trace : List Event} :
    office.run (action :: actions) = some (last, trace) ↔
      ∃ next events later, office.step action = some (next, events) ∧
        next.run actions = some (last, later) ∧ trace = events ++ later := by
  simp only [run, Option.bind_eq_some_iff, Option.map_eq_some_iff, Prod.exists, Prod.mk.injEq]
  constructor
  · rintro ⟨next, events, hs, _, later, hr, rfl, rfl⟩
    exact ⟨next, events, later, hs, hr, rfl⟩
  · rintro ⟨next, events, later, hs, hr, rfl⟩
    exact ⟨next, events, hs, _, later, hr, rfl, rfl⟩

theorem run_append {office middle last : Office} {actions more : List Action}
    {events later : List Event} (hr : office.run actions = some (middle, events))
    (hm : middle.run more = some (last, later)) :
    office.run (actions ++ more) = some (last, events ++ later) := by
  induction actions generalizing office events with
  | nil =>
    cases hr
    exact hm
  | cons action actions ih =>
    obtain ⟨next, first, rest, hs, hrest, rfl⟩ := run_cons.1 hr
    exact run_cons.2 ⟨next, first, _, hs, ih hrest, List.append_assoc ..⟩

/-- So is every run. -/
theorem effects_run {office last : Office} {actions : List Action} {trace : List Event}
    (h : Steady office.session) (hg : ∀ action ∈ actions, action.Given given)
    (hr : office.run actions = some (last, trace)) :
    Effects given office trace last := by
  induction actions generalizing office trace with
  | nil =>
    cases hr
    exact .refl _
  | cons action actions ih =>
    obtain ⟨next, events, later, hs, hrest, rfl⟩ := run_cons.1 hr
    have first := effects_step h (hg action (by simp)) hs
    have hnext : Steady next.session := first.steady h
    exact first.trans (ih hnext (fun action ha => hg action (by simp [ha])) hrest)

/-- A law that every step keeps holds after every run. -/
theorem keep_steps (law : List Event → Office → Prop)
    (hkeep : ∀ past office action events next, law past office →
      office.step action = some (next, events) → law (past ++ events) next)
    {office last : Office} {actions : List Action} {past later : List Event}
    (h0 : law past office) (hr : office.run actions = some (last, later)) :
    law (past ++ later) last := by
  induction actions generalizing office past later with
  | nil =>
    cases hr
    simpa using h0
  | cons action actions ih =>
    obtain ⟨next, events, later, hs, hrest, rfl⟩ := run_cons.1 hr
    rw [← List.append_assoc]
    exact ih (hkeep past office action events next h0 hs) hrest

/-- A law of a new office that every effect keeps holds after every run. -/
theorem keep_run (law : List Event → Office → Prop) {settings : Settings} {port : UInt32}
    {transport : Transport} {office : Office} {actions : List Action} {trace : List Event}
    (h0 : law [] (.new settings port transport))
    (hkeep : ∀ past office events next, law past office →
      Effect given office events next → law (past ++ events) next)
    (hg : ∀ action ∈ actions, action.Given given)
    (h : (Office.new settings port transport).run actions = some (office, trace)) :
    law trace office := (effects_run (.new ..) hg h).keep hkeep [] h0

/-- Port and settings stay what they were. -/
theorem setup_run {settings : Settings} {port : UInt32} {transport : Transport}
    {office : Office} {actions : List Action} {trace : List Event}
    (hg : ∀ action ∈ actions, action.Given given)
    (h : (Office.new settings port transport).run actions = some (office, trace)) :
    office.session.port = port ∧ office.session.settings = settings :=
  keep_run (fun _ office => office.session.port = port ∧ office.session.settings = settings)
    ⟨rfl, rfl⟩ (fun _ _ _ _ hs he => ⟨he.port.trans hs.1, he.settings.trans hs.2⟩) hg h

end Office
end RouteNetlink
