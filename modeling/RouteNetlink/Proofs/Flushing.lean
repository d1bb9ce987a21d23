import RouteNetlink.Proofs.Steps

/-! What a step has to do with flushes: it starts one, makes one write of it, or leaves it
alone. Only so do flushes end and calls fail. -/
namespace RouteNetlink

/-- The fault that an answer to a write is, if it is one. -/
def Fault.ofSend? : Except Int32 Nat → Option Fault
  | .error code => some (.io (.os code))
  | .ok 0 => some (.io .acceptedNothing)
  | .ok (_ + 1) => none

namespace Session

/-- A flush that ends leaves nothing behind, however it ends. -/
theorem idle_of_land (session : Session) (receipt : Receipt) (result : Except Fault Unit) :
    (session.land receipt result).2.transmit.bytes = [] ∧
      (session.land receipt result).2.flight? = none := by
  cases result with
  | ok => exact ⟨rfl, rfl⟩
  | error fault =>
    obtain ⟨sequence, reservation?⟩ := receipt
    cases reservation? <;> exact ⟨rfl, rfl⟩

/-- How a flush starts. -/
theorem launch_cases (session : Session) (receipt : Receipt) :
    (session.closed = true ∧ session.launch receipt = session.land receipt (.error .closed)) ∨
    (session.closed = false ∧ session.transmit.bytes = [] ∧
      session.launch receipt = session.land receipt (.ok ())) ∨
    (session.closed = false ∧ session.transmit.bytes ≠ [] ∧
      session.launch receipt = (.flying ⟨receipt, session.transmit.bytes⟩,
        { session with flight? := some ⟨receipt, session.transmit.bytes⟩ })) := by
  unfold launch
  cases hc : session.closed with
  | true => exact .inl ⟨rfl, rfl⟩
  | false =>
    right
    by_cases he : session.transmit.isEmpty = true
    · left
      have hb : session.transmit.bytes = [] := by simpa [TransmitBuffer.isEmpty] using he
      simp [hb, he]
    · right
      have hb : session.transmit.bytes ≠ [] := by simpa [TransmitBuffer.isEmpty] using he
      simp [hb, he]

theorem idle_of_launch {session : Session} {receipt : Receipt} {result : Except Fault Receipt}
    (h : (session.launch receipt).1 = .landed result) :
    (session.launch receipt).2.transmit.bytes = [] ∧
      (session.launch receipt).2.flight? = none := by
  rcases session.launch_cases receipt with ⟨-, hl⟩ | ⟨-, -, hl⟩ | ⟨-, -, hl⟩
  · rw [hl]
    exact session.idle_of_land ..
  · rw [hl]
    exact session.idle_of_land ..
  · rw [hl] at h
    cases h

/-- Only a closed session refuses to start a flush. -/
theorem closed_of_launch {session : Session} {receipt : Receipt} {fault : Fault}
    (h : (session.launch receipt).1 = .landed (.error fault)) :
    session.closed = true ∧ fault = .closed := by
  rcases session.launch_cases receipt with ⟨hc, hl⟩ | ⟨-, -, hl⟩ | ⟨-, -, hl⟩
  · rw [hl] at h
    cases h
    exact ⟨hc, rfl⟩
  · rw [hl] at h
    cases h
  · rw [hl] at h
    cases h

/-- An answer that is a fault ends the flush. -/
theorem push_of_fault {session : Session} {flight : Flight} {fault : Fault}
    (h : Fault.ofSend? (session.transport.send flight.left).1 = some fault) :
    session.push flight =
      land { session with transport := (session.transport.send flight.left).2 } flight.receipt
        (.error fault) := by
  unfold push
  cases hs : session.transport.send flight.left with
  | mk accepted transport =>
    rw [hs] at h
    match accepted with
    | .error code =>
      cases h
      rfl
    | .ok 0 =>
      cases h
      rfl
    | .ok (n + 1) => cases h

/-- Any other answer brings the flush nearer to its end. -/
theorem push_of_progress {session : Session} {flight : Flight} {n : Nat}
    (h : (session.transport.send flight.left).1 = .ok (n + 1)) :
    (flight.left.drop (n + 1) = [] ∧ session.push flight =
      land { session with transport := (session.transport.send flight.left).2 } flight.receipt
        (.ok ())) ∨
    session.push flight = (.flying { flight with left := flight.left.drop (n + 1) },
      { session with
        transport := (session.transport.send flight.left).2
        flight? := some { flight with left := flight.left.drop (n + 1) } }) := by
  unfold push
  cases hs : session.transport.send flight.left with
  | mk accepted transport =>
    rw [hs] at h
    cases h
    dsimp only
    cases flight.left.drop (n + 1) with
    | nil => exact .inl ⟨rfl, rfl⟩
    | cons => exact .inr rfl

theorem ofSend?_eq_none {answer : Except Int32 Nat} (h : Fault.ofSend? answer = none) :
    ∃ n, answer = .ok (n + 1) := by
  match answer with
  | .error code => cases h
  | .ok 0 => cases h
  | .ok (n + 1) => exact ⟨n, rfl⟩

theorem push_eq_error_iff {session : Session} {flight : Flight} {fault : Fault} :
    (session.push flight).1 = .landed (.error fault) ↔
      Fault.ofSend? (session.transport.send flight.left).1 = some fault := by
  cases ho : Fault.ofSend? (session.transport.send flight.left).1 with
  | some other =>
    rw [push_of_fault ho]
    simp [land]
  | none =>
    obtain ⟨n, hn⟩ := ofSend?_eq_none ho
    rcases push_of_progress hn with ⟨-, hp⟩ | hp <;> simp [hp, land]

theorem idle_of_push {session : Session} {flight : Flight} {result : Except Fault Receipt}
    (h : (session.push flight).1 = .landed result) :
    (session.push flight).2.transmit.bytes = [] ∧ (session.push flight).2.flight? = none := by
  cases ho : Fault.ofSend? (session.transport.send flight.left).1 with
  | some fault =>
    rw [push_of_fault ho]
    exact idle_of_land ..
  | none =>
    obtain ⟨n, hn⟩ := ofSend?_eq_none ho
    rcases push_of_progress hn with ⟨-, hp⟩ | hp
    · rw [hp]
      exact idle_of_land ..
    · rw [hp] at h
      cases h

theorem receiving_push (session : Session) (flight : Flight) :
    (session.push flight).2.receiving = session.receiving := by
  cases ho : Fault.ofSend? (session.transport.send flight.left).1 with
  | some fault =>
    rw [push_of_fault ho]
    obtain ⟨⟨sequence, reservation?⟩, left⟩ := flight
    cases reservation? <;> rfl
  | none =>
    obtain ⟨n, hn⟩ := ofSend?_eq_none ho
    rcases push_of_progress hn with ⟨-, hp⟩ | hp
    · rw [hp]
      rfl
    · rw [hp]

@[simp] theorem transmit_depart (session : Session) (loop : ReceiveLoop) (turn : DumpTurn)
    (progress : Progress) : (session.depart loop turn progress).transmit = session.transmit := by
  unfold depart
  split <;> rfl

@[simp] theorem flight_depart (session : Session) (loop : ReceiveLoop) (turn : DumpTurn)
    (progress : Progress) : (session.depart loop turn progress).flight? = session.flight? := by
  unfold depart
  split <;> rfl

end Session

namespace Office

def Event.isLanding : Event → Bool
  | .cleared | .failed _ => true
  | _ => false

/-- What the transport answers to the write that an action makes of the flush under way. -/
def attempt? (session : Session) : Action → Option (Except Int32 Nat)
  | .tick => if isAsking session then answer else none
  | .write => if isAsking session then none else answer
  | _ => none
where
  answer := session.flight?.map fun flight => (session.transport.send flight.left).1

/-- What it answered to all the writes of a run. -/
def attempts (office : Office) : List Action → List (Except Int32 Nat)
  | [] => []
  | action :: actions =>
    (attempt? office.session action).toList ++
      (office.step action).elim [] fun (next, _) => attempts next actions

theorem cleared_mem_landing {reservation? : Option Reservation} {progress : Progress} :
    .cleared ∈ landing reservation? progress ↔ ∃ result, progress = .landed result := by
  match progress with
  | .flying _ => simp [landing]
  | .landed (.ok _) => simp [landing]
  | .landed (.error _) => simp [landing]

theorem failed_mem_landing {reservation? : Option Reservation} {progress : Progress}
    {fault : Fault} :
    .failed fault ∈ landing reservation? progress ↔ progress = .landed (.error fault) := by
  match progress with
  | .flying _ => simp [landing]
  | .landed (.ok _) => simp [landing]
  | .landed (.error _) => simp [landing, eq_comm]

/-- A step ends a flush if `flown` has ended. -/
structure Lands (flown : Progress × Session) (events : List Event) (next : Session) : Prop where
  cleared : .cleared ∈ events ↔ ∃ result, flown.1 = .landed result
  failed : ∀ fault, .failed fault ∈ events ↔ flown.1 = .landed (.error fault)
  transmit : next.transmit = flown.2.transmit
  flight : next.flight? = flown.2.flight?

theorem Lands.of_landing (flown : Progress × Session) (reservation? : Option Reservation)
    (earlier later : List Event) {events : List Event} {next : Session}
    (heq : events = earlier ++ landing reservation? flown.1 ++ later)
    (he : ∀ event ∈ earlier, event.isLanding = false)
    (hl : ∀ event ∈ later, event.isLanding = false)
    (ht : next.transmit = flown.2.transmit) (hf : next.flight? = flown.2.flight?) :
    Lands flown events next := by
  have hmem : ∀ event : Event, event.isLanding = true →
      (event ∈ events ↔ event ∈ landing reservation? flown.1) := by
    intro event hi
    have hearlier : event ∉ earlier := fun hm => by simp [he event hm] at hi
    have hlater : event ∉ later := fun hm => by simp [hl event hm] at hi
    simp [heq, hearlier, hlater]
  exact ⟨(hmem _ rfl).trans cleared_mem_landing,
    fun fault => (hmem _ rfl).trans failed_mem_landing, ht, hf⟩

/-- How a step is part of a flush. -/
inductive Flushing (session : Session) (action : Action) (events : List Event)
    (next : Session) : Prop where
  | apart (he : ∀ event ∈ events, event.isLanding = false)
      (ha : attempt? session action = none)
  | launched {begun : Session} {receipt : Receipt}
      (hl : Lands (begun.launch receipt) events next) (hc : begun.closed = session.closed)
      (ha : attempt? session action = none)
  | pushed {flight : Flight} (hf : session.flight? = some flight)
      (hl : Lands (session.push flight) events next)
      (hw : ∀ piece, .wrote piece ∈ events →
        (session.transport.send flight.left).1 = .ok piece.length)
      (ha : attempt? session action = some (session.transport.send flight.left).1)
  | unreserved {message : Message} {fault : Fault} (hf : session.flight? = none)
      (hm : message.header.sequence = 0)
      (hr : session.ledger.register (message.stamped session.transmit).header.sequence =
        .error fault)
      (he : events = [.framed .reservation (message.stamped session.transmit), .cleared,
        .failed fault])
      (hn : next = { session with transmit := (session.transmit.holding message).clear })
      (ha : attempt? session action = none)

variable {session : Session} {office next : Office} {action : Action} {events : List Event}

theorem isLanding_framing (session : Session) (purpose : Purpose) (message : Message) :
    (framing session purpose message).isLanding = false := by
  unfold framing
  dsimp only
  split <;> rfl

theorem eq_stopped_of_mem_ending {event : Event} (h : event ∈ ending session) :
    ∃ result, event = .stopped result := by
  unfold ending at h
  split at h
  · exact ⟨_, List.mem_singleton.1 h⟩
  · cases h

theorem isLanding_reading {loop : ReceiveLoop} {event : Event}
    (h : event ∈ reading session loop) : event.isLanding = false := by
  unfold reading at h
  split at h
  · obtain rfl := List.mem_singleton.1 h
    rfl
  · split at h
    · cases h
    · split at h
      · obtain rfl := List.mem_singleton.1 h
        rfl
      · cases h

theorem isLanding_wrote (session : Session) (flight : Flight) :
    ∀ event ∈ (match (session.transport.send flight.left).1 with
      | .ok n => [Event.wrote (flight.left.take n)]
      | .error _ => []), event.isLanding = false := by
  intro event hm
  split at hm
  · obtain rfl := List.mem_singleton.1 hm
    rfl
  · cases hm

/-- The transport accepts as much as it answers. -/
theorem wrote_mem_writing {flight : Flight} {piece : List UInt8}
    (h : .wrote piece ∈ writing session flight) :
    (session.transport.send flight.left).1 = .ok piece.length := by
  unfold writing at h
  cases hs : session.transport.send flight.left with
  | mk accepted transport =>
    rw [hs] at h
    have hlanding : .wrote piece ∉ landing flight.receipt.reservation? (session.push flight).1 := by
      match (session.push flight).1 with
      | .flying _ => simp [landing]
      | .landed (.ok _) => simp [landing]
      | .landed (.error _) => simp [landing]
    cases accepted with
    | error code => simp [hlanding] at h
    | ok n =>
      obtain rfl : piece = flight.left.take n := by simpa [hlanding] using h
      rw [List.length_take, Nat.min_eq_left (Transport.accepted_le hs)]

theorem isAsking_of_running {loop : ReceiveLoop} (hl : session.receiving = .running loop) :
    isAsking session = true ↔ ∃ turn, loop.phase = .sending turn := by
  obtain ⟨phase, buffer, parked?⟩ := loop
  cases phase <;> simp [isAsking, hl]

theorem attempt?_tick {loop : ReceiveLoop} (hl : session.receiving = .running loop)
    (hs : ∀ turn, loop.phase ≠ .sending turn) : attempt? session .tick = none := by
  have hi : isAsking session = false := by
    rw [Bool.eq_false_iff, Ne, isAsking_of_running hl]
    rintro ⟨turn, ht⟩
    exact hs turn ht
  simp [attempt?, hi]

theorem flushing_advance {loop : ReceiveLoop} {next : Session} (h : Steady session)
    (hl : session.receiving = .running loop) (hn : session.advance loop = some next) :
    Flushing session .tick (ticking session loop ++ ending next) next := by
  have hending : ∀ event ∈ ending next, event.isLanding = false := by
    intro event hm
    obtain ⟨result, rfl⟩ := eq_stopped_of_mem_ending hm
    rfl
  unfold Session.advance at hn
  split at hn
  · rename_i message hp
    refine .apart ?_ (attempt?_tick hl (h.parked loop hl (by simp [hp])).2)
    simp only [ticking, hp]
    intro event hm
    rcases List.mem_append.1 hm with hm | hm
    · split at hm
      · cases hm
      · obtain rfl := List.mem_singleton.1 hm
        rfl
    · exact hending event hm
  · rename_i hp
    split at hn
    · rename_i turn ha
      simp only [ticking, hp, ha]
      unfold Session.ask at hn
      split at hn
      · cases hn
      · rename_i hf
        have hadd := session.add_dump turn.request.kind turn.request.family
        rw [beginSend_of_add hadd] at hn
        rw [sending_of_add hadd]
        cases hn
        exact .launched
          (.of_landing _ none [framing session (.dump turn) _] _ rfl
            (by simp [isLanding_framing]) hending (Session.transmit_depart ..)
            (Session.flight_depart ..))
          rfl (attempt?_tick hl (by simp [ha]))
    · rename_i turn ha
      obtain ⟨flight, hf, rfl⟩ := Option.map_eq_some_iff.1 hn
      simp only [ticking, hp, ha, hf, Option.elim]
      have hi : isAsking session = true := (isAsking_of_running hl).2 ⟨turn, ha⟩
      exact .pushed hf
        (.of_landing _ _ _ _ rfl (isLanding_wrote session flight) hending
          (Session.transmit_depart ..) (Session.flight_depart ..))
        (fun piece hm => wrote_mem_writing
          ((List.mem_append.1 hm).resolve_right fun he => by
            simpa using eq_stopped_of_mem_ending he))
        (by simp [attempt?, attempt?.answer, hi, hf])
    · rename_i hna hns
      refine .apart ?_ (attempt?_tick hl hns)
      rw [ticking_of_ready ⟨hl, hp, hna, hns⟩]
      intro event hm
      exact (List.mem_append.1 hm).elim isLanding_reading (hending event)

theorem flushing_beginSend {message : Message} {purpose : Purpose}
    (ha : attempt? session action = none) :
    Flushing session action (sending session purpose message)
      (session.beginSend message).session := by
  rcases session.add_cases message with h | ⟨fault, buffer, ho, hs, -⟩
  · rw [sending_of_add h, beginSend_of_add h]
    exact .launched
      (.of_landing _ none [framing session purpose message] [] (List.append_nil _).symm
        (by simp [isLanding_framing]) (by simp) rfl rfl)
      rfl ha
  · refine .apart ?_ ha
    simp only [sending, ho]
    simp [isLanding_framing]

theorem flushing_beginReserve {message : Message} (hf : session.flight? = none)
    (ha : attempt? session action = none) :
    Flushing session action (reserving session message)
      (session.beginReserve message).session := by
  unfold reserving Session.beginReserve
  rcases session.add_cases (Session.requestAck message) with h | ⟨fault, buffer, ho, hs, -⟩
  · simp only [h, framing]
    cases hr : session.ledger.register
        ((Session.requestAck message).stamped session.transmit).header.sequence with
    | error fault => exact .unreserved hf rfl hr rfl rfl ha
    | ok registered =>
      exact .launched
        (.of_landing _ (some registered.1) [.framed _ _, .reserved _ _] []
          (List.append_nil _).symm (by simp [Event.isLanding]) (by simp) rfl rfl)
        rfl ha
  · simp only [ho]
    exact .apart (by simp [isLanding_framing]) ha

/-- Every step starts a flush, goes on with it or leaves it alone. -/
theorem flushing_step (h : Steady office.session)
    (hs : office.step action = some (next, events)) :
    Flushing office.session action events next.session := by
  obtain ⟨session, held⟩ := office
  cases action with
  | listen requests =>
    simp only [step] at hs
    split at hs <;> cases hs <;> exact .apart (by simp [Event.isLanding]) rfl
  | tick =>
    simp only [step] at hs
    split at hs
    · rename_i loop hl
      obtain ⟨after, ha, hs⟩ := Option.map_eq_some_iff.1 hs
      cases hs
      exact flushing_advance h hl ha
    · cases hs
  | add message =>
    simp only [step] at hs
    split at hs <;> cases hs
    exact .apart (by simp [isLanding_framing]) rfl
  | send message =>
    simp only [step] at hs
    split at hs <;> cases hs
    exact flushing_beginSend rfl
  | flush =>
    simp only [step] at hs
    split at hs <;> cases hs
    exact .launched
      (.of_landing (session.launch ⟨0, none⟩) none [] [] (List.append_nil _).symm (by simp)
        (by simp) rfl rfl)
      rfl rfl
  | reserve message =>
    simp only [step] at hs
    split at hs <;> cases hs
    exact flushing_beginReserve (Option.isNone_iff_eq_none.1 ‹_›) rfl
  | write =>
    simp only [step] at hs
    split at hs
    · rename_i flight hf
      split at hs <;> cases hs
      rename_i hi
      exact .pushed hf
        (.of_landing _ _ _ [] (List.append_nil _).symm (isLanding_wrote session flight)
          (by simp) rfl rfl)
        (fun piece => wrote_mem_writing)
        (by simp [attempt?, attempt?.answer, hi, hf])
    · cases hs
  | finish task now =>
    simp only [step] at hs
    split at hs
    · split at hs <;> cases hs
      exact .apart (by simp [Event.isLanding]) rfl
    · cases hs
  | drop reservation =>
    simp only [step] at hs
    split at hs <;> cases hs
    exact .apart (by simp [Event.isLanding]) rfl
  | close =>
    cases hs
    refine .apart ?_ rfl
    split <;> simp [Event.isLanding]
  | arrive | read =>
    obtain ⟨_, -, hs⟩ := Option.map_eq_some_iff.1 hs
    cases hs
    exact .apart (by simp [Event.isLanding]) rfl
  | hangUp | rule | closeStream | dropStream =>
    cases hs
    exact .apart (by simp) rfl

/-- A flush that has ended leaves nothing behind. -/
theorem Flushing.idle {next : Session} (h : Flushing session action events next)
    (hc : .cleared ∈ events) : next.transmit.bytes = [] ∧ next.flight? = none := by
  cases h with
  | apart he =>
    have := he _ hc
    cases this
  | launched hl =>
    obtain ⟨result, hr⟩ := hl.cleared.1 hc
    rw [hl.transmit, hl.flight]
    exact Session.idle_of_launch hr
  | pushed hf hl =>
    obtain ⟨result, hr⟩ := hl.cleared.1 hc
    rw [hl.transmit, hl.flight]
    exact Session.idle_of_push hr
  | unreserved hf _ _ _ hn =>
    subst hn
    exact ⟨rfl, hf⟩

/-- What makes a call fail that has framed its message: the session is closed, the transport
does not take what is sent, or the reply cannot be reserved. -/
theorem Flushing.cause {next : Session} {fault : Fault}
    (h : Flushing session action events next) (hf : .failed fault ∈ events) :
    (session.closed = true ∧ fault = .closed) ∨
    (∃ answer, attempt? session action = some answer ∧ Fault.ofSend? answer = some fault) ∨
    ∃ message : Message, message.header.sequence = 0 ∧
      session.ledger.register (message.stamped session.transmit).header.sequence = .error fault ∧
      .framed .reservation (message.stamped session.transmit) ∈ events := by
  cases h with
  | apart he =>
    have := he _ hf
    cases this
  | launched hl hc =>
    obtain ⟨hclosed, hfault⟩ := Session.closed_of_launch ((hl.failed fault).1 hf)
    exact .inl ⟨hc ▸ hclosed, hfault⟩
  | pushed _ hl _ ha =>
    exact .inr (.inl ⟨_, ha, Session.push_eq_error_iff.1 ((hl.failed fault).1 hf)⟩)
  | unreserved _ hm hr he =>
    subst he
    obtain rfl : fault = _ := by simpa using hf
    exact .inr (.inr ⟨_, hm, hr, by simp⟩)

/-- A write that the transport does not take is what the call fails with. -/
theorem Flushing.fails {next : Session} {answer : Except Int32 Nat} {fault : Fault}
    (h : Flushing session action events next) (ha : attempt? session action = some answer)
    (hf : Fault.ofSend? answer = some fault) :
    .failed fault ∈ events ∧ .cleared ∈ events ∧ (∀ piece, .wrote piece ∈ events → piece = []) ∧
      ∃ flight, session.flight? = some flight := by
  cases h with
  | apart _ hn | launched _ _ hn | unreserved _ _ _ _ _ hn =>
    rw [hn] at ha
    cases ha
  | pushed hflight hl hw hn =>
    obtain rfl : _ = answer := Option.some.inj (hn.symm.trans ha)
    have hp := Session.push_eq_error_iff.2 hf
    refine ⟨(hl.failed fault).2 hp, hl.cleared.2 ⟨_, hp⟩, fun piece hm => ?_, _, hflight⟩
    rw [hw piece hm] at hf
    cases piece with
    | nil => rfl
    | cons => cases hf

/-- The action that goes on with the flush under way. -/
def onward (session : Session) : Action := if isAsking session then .tick else .write

theorem attempt?_onward {flight : Flight} (hf : session.flight? = some flight) :
    attempt? session (onward session) = some (session.transport.send flight.left).1 := by
  unfold onward
  cases hi : isAsking session <;> simp [attempt?, attempt?.answer, hi, hf]

/-- A receive loop amid its own flush has nothing else to do. -/
theorem Steady.asking (h : Steady session) (hi : isAsking session = true) :
    ∃ loop turn, session.receiving = .running loop ∧ loop.phase = .sending turn ∧
      loop.parked? = none := by
  obtain ⟨loop, hl⟩ : ∃ loop, session.receiving = .running loop := by
    unfold isAsking at hi
    split at hi
    · exact ⟨_, ‹_›⟩
    · cases hi
  obtain ⟨turn, ht⟩ := (isAsking_of_running hl).1 hi
  refine ⟨loop, turn, hl, ht, ?_⟩
  by_contra hne
  exact (h.parked loop hl hne).2 turn ht

/-- The flush under way can always go on, and whoever it belongs to goes on with it. -/
theorem onward_step {flight : Flight} (h : Steady office.session)
    (hf : office.session.flight? = some flight) :
    ∃ next events, office.step (onward office.session) = some (next, events) ∧
      ∀ shorter, (office.session.push flight).1 = .flying shorter →
        onward next.session = onward office.session := by
  obtain ⟨session, held⟩ := office
  replace hf : session.flight? = some flight := hf
  replace h : Steady session := h
  show ∃ next events, step ⟨session, held⟩ (onward session) = some (next, events) ∧
    ∀ shorter, (session.push flight).1 = .flying shorter → onward next.session = onward session
  unfold onward
  cases hi : isAsking session with
  | true =>
    obtain ⟨loop, turn, hl, ht, hp⟩ := h.asking hi
    let after := (session.push flight).2.depart loop turn (session.push flight).1
    have hn : session.advance loop = some after := by simp [Session.advance, hp, ht, hf, after]
    refine ⟨withSession ⟨session, held⟩ after, ticking session loop ++ ending after,
      by simp [step, hl, hn], fun shorter hs => ?_⟩
    have hasking : isAsking after = true := by
      simp only [after, hs]
      rfl
    simp [withSession, hasking]
  | false =>
    refine ⟨⟨(session.push flight).2, handed (session.push flight).1 ++ held⟩,
      writing session flight, by simp [step, hf, hi], fun shorter hs => ?_⟩
    have hasking : isAsking (session.push flight).2 = false := by
      rw [← hi]
      unfold isAsking
      rw [session.receiving_push flight]
    simp [hasking]

theorem lands_onward {flight : Flight} (h : Steady office.session)
    (hf : office.session.flight? = some flight)
    (hs : office.step (onward office.session) = some (next, events)) :
    Lands (office.session.push flight) events next.session := by
  have hattempt := attempt?_onward hf
  cases flushing_step h hs with
  | apart _ ha | launched _ _ ha | unreserved _ _ _ _ _ ha =>
    rw [hattempt] at ha
    cases ha
  | pushed hflight hl =>
    obtain rfl := Option.some.inj (hflight.symm.trans hf)
    exact hl

/-- A flush ends, if nobody else does anything, after no more writes than it has bytes. -/
theorem flush_returns {flight : Flight} (h : Steady office.session)
    (hf : office.session.flight? = some flight) :
    ∃ k ≤ flight.left.length + 1, ∃ last later,
      office.run (.replicate k (onward office.session)) = some (last, later) ∧
        last.session.flight? = none ∧ .cleared ∈ later := by
  -- on what is left: a write that does not end the flush takes at least one byte of it
  induction hn : flight.left.length using Nat.strongRecOn generalizing office flight with
  | ind n ih =>
    obtain ⟨next, events, hs, honward⟩ := onward_step h hf
    have hl := lands_onward h hf hs
    have hnext : Steady next.session := (effects_step h (given_true _) hs).steady h
    cases hp : (office.session.push flight).1 with
    | landed result =>
      refine ⟨1, by omega, next, events, run_cons.2 ⟨next, events, [], hs, rfl, by simp⟩, ?_,
        hl.cleared.2 ⟨_, hp⟩⟩
      rw [hl.flight]
      exact (Session.idle_of_push hp).2
    | flying shorter =>
      obtain ⟨hflight, hlt⟩ := Session.flight_push hp
      rw [← hl.flight] at hflight
      obtain ⟨k, hk, last, later, hr, hnone, hc⟩ := ih _ (hn ▸ hlt) hnext hflight rfl
      rw [honward shorter hp] at hr
      exact ⟨k + 1, by omega, last, _, run_cons.2 ⟨next, events, later, hs, hr, rfl⟩, hnone,
        List.mem_append_right _ hc⟩

end Office
end RouteNetlink
