import RouteNetlink.Session.Receive

/-! A receive loop that runs until it has to wait. Each of its steps takes it closer: it
reads what has arrived, then takes the records apart, then sends what it asks for. -/
namespace RouteNetlink

/-- Steps left until more has to be read or taken from the buffer. -/
def ReceiveLoop.stage (loop : ReceiveLoop) : Nat :=
  match loop.parked?, loop.phase with
  | some _, _ => 3
  | none, .asking _ => 2
  | none, .sending _ => 1
  | none, _ => 0

namespace Session

/-- What is left to be done without waiting, the most weighty part first. -/
def rank (session : Session) : Nat × Nat × Nat × Nat × Nat :=
  match session.receiving with
  | .running loop =>
    (1, session.transport.arrivals.length, loop.buffer.size, loop.stage,
      session.flight?.elim 0 (·.left.length))
  | _ => (0, 0, 0, 0, 0)

abbrev Lower : Nat × Nat × Nat × Nat × Nat → Nat × Nat × Nat × Nat × Nat → Prop :=
  Prod.Lex (· < ·) (Prod.Lex (· < ·) (Prod.Lex (· < ·) (Prod.Lex (· < ·) (· < ·))))

theorem rank_stop (session : Session) (result : Except Fault Unit) :
    (session.stop result).rank = (0, 0, 0, 0, 0) := rfl

theorem lower_stop (session : Session) (result : Except Fault Unit)
    (r : Nat × Nat × Nat × Nat) : Lower (session.stop result).rank (1, r) := by
  rw [rank_stop]
  exact .left _ _ Nat.zero_lt_one

theorem stage_after (loop : ReceiveLoop) (message : Message) (phase : Phase) :
    ReceiveLoop.stage { loop with phase := phase.after message, parked? := none } < 3 := by
  simp only [ReceiveLoop.stage]
  split <;> simp_all

theorem lower_forward {session next : Session} {loop : ReceiveLoop} {message : Message}
    (hp : loop.parked? = some message) (h : session.forward loop message = some next) :
    Lower next.rank (resume session loop).rank := by
  unfold forward at h
  split at h
  · cases h
    exact lower_stop ..
  · obtain ⟨stream, -, rfl⟩ := Option.map_eq_some_iff.1 h
    refine .right _ (.right _ (.right _ (.left _ _ ?_)))
    have h3 : loop.stage = 3 := by simp [ReceiveLoop.stage, hp]
    rw [h3]
    exact stage_after ..

theorem transport_land (session : Session) (receipt : Receipt) (result : Except Fault Unit) :
    (session.land receipt result).2.transport = session.transport := by
  cases result with
  | ok => rfl
  | error fault => cases h : receipt.reservation? <;> simp [land, h, dropReservation]

theorem transport_launch (session : Session) (receipt : Receipt) :
    (session.launch receipt).2.transport = session.transport := by
  unfold launch
  split
  · exact transport_land ..
  · split
    · exact transport_land ..
    · rfl

theorem transport_beginSend (session : Session) (message : Message) :
    (session.beginSend message).session.transport = session.transport := by
  unfold beginSend
  dsimp only
  split
  · rfl
  · exact transport_launch ..

theorem arrivals_push (session : Session) (flight : Flight) :
    (session.push flight).2.transport.arrivals = session.transport.arrivals := by
  have ha := Transport.arrivals_send session.transport flight.left
  unfold push
  dsimp only
  split
  · rw [transport_land]; exact ha
  · rw [transport_land]; exact ha
  · split
    · rw [transport_land]; exact ha
    · exact ha

theorem flight_land (session : Session) (receipt : Receipt) (result : Except Fault Unit)
    (flight : Flight) : (session.land receipt result).1 ≠ .flying flight := by
  cases result <;> exact Progress.noConfusion

theorem flight_push {session : Session} {flight next : Flight}
    (h : (session.push flight).1 = .flying next) :
    (session.push flight).2.flight? = some next ∧ next.left.length < flight.left.length := by
  have hl := left_push session flight
  rw [h] at hl
  refine ⟨?_, by simpa [Progress.left] using hl⟩
  unfold push at h ⊢
  dsimp only at h ⊢
  split at h
  · exact (flight_land _ _ _ _ h).elim
  · exact (flight_land _ _ _ _ h).elim
  · split at h
    · exact (flight_land _ _ _ _ h).elim
    · cases h
      rfl

/-- Where the flush of the loop's own request goes on, it has come closer; where it ends, the loop
awaits the dump or stops. -/
theorem lower_depart {session : Session} {loop : ReceiveLoop} {turn : DumpTurn}
    {progress : Progress} {stage left : Nat} (hp : loop.parked? = none) (hs : 0 < stage)
    (hf : ∀ flight, progress = .flying flight →
      Prod.Lex (· < ·) (· < ·) (1, session.flight?.elim 0 (·.left.length)) (stage, left)) :
    Lower (session.depart loop turn progress).rank
      (1, session.transport.arrivals.length, loop.buffer.size, stage, left) := by
  match progress with
  | .flying flight =>
    have h1 : ReceiveLoop.stage { loop with phase := .sending turn } = 1 := by
      simp [ReceiveLoop.stage, hp]
    refine .right _ (.right _ (.right _ ?_))
    show Prod.Lex _ _ (ReceiveLoop.stage { loop with phase := .sending turn }, _) _
    rw [h1]
    exact hf flight rfl
  | .landed (.ok receipt) =>
    have h0 : ReceiveLoop.stage { loop with phase := .awaiting turn receipt.sequence } = 0 := by
      simp [ReceiveLoop.stage, hp]
    refine .right _ (.right _ (.right _ (.left _ _ ?_)))
    show ReceiveLoop.stage { loop with phase := .awaiting turn receipt.sequence } < _
    rw [h0]
    exact hs
  | .landed (.error fault) =>
    cases fault <;> exact lower_stop ..

theorem transport_dispatch (session : Session) (item : Except Fault (List UInt8))
    (namespaceId? : Option Int32) :
    (session.dispatch item namespaceId?).2.transport = session.transport := by
  unfold dispatch
  dsimp only
  repeat' split
  all_goals rfl

theorem lower_resume {session : Session} {loop : ReceiveLoop} {arrivals size : Nat}
    {r : Nat × Nat} (ha : session.transport.arrivals.length = arrivals)
    (hb : loop.buffer.size < size) :
    Lower (session.resume loop).rank (1, arrivals, size, r) := by
  subst ha
  exact .right _ (.right _ (.left _ _ hb))

theorem lower_take {session : Session} {loop : ReceiveLoop} {item : Except Fault (List UInt8)}
    {rest : ReceiveBuffer} {r : Nat × Nat} (hb : rest.size < loop.buffer.size) :
    Lower (session.take loop item rest).rank
      (1, session.transport.arrivals.length, loop.buffer.size, r) := by
  have ha := congrArg (·.arrivals.length) (transport_dispatch session item rest.namespaceId?)
  unfold take
  dsimp only at ha ⊢
  split
  · exact lower_resume ha hb
  · split
    · unfold retry
      split
      · exact lower_resume ha hb
      · exact lower_stop ..
    · exact lower_resume ha hb

theorem lower_fill {session next : Session} {loop : ReceiveLoop} {r : Nat × Nat × Nat}
    (h : session.fill loop = some next) :
    Lower next.rank (1, session.transport.arrivals.length, r) := by
  unfold fill at h
  split at h
  · cases h
    exact lower_stop ..
  · obtain ⟨⟨arrival, transport⟩, hr, rfl⟩ := Option.map_eq_some_iff.1 h
    unfold Transport.receive? at hr
    dsimp only
    split
    · exact lower_stop ..
    · exact lower_stop ..
    · refine .right _ (.left _ _ ?_)
      split at hr
      · rename_i he
        cases hr
        rw [he]
        exact Nat.lt_succ_self _
      · split at hr
        · cases hr
          contradiction
        · cases hr

theorem lower_advance {session next : Session} {loop : ReceiveLoop}
    (h : session.advance loop = some next) :
    Lower next.rank (session.resume loop).rank := by
  unfold advance at h
  split at h
  · rename_i message hp
    exact lower_forward hp h
  · rename_i hp
    split at h
    · rename_i turn hph
      have h2 : loop.stage = 2 := by simp [ReceiveLoop.stage, hp, hph]
      unfold ask at h
      split at h
      · cases h
      · cases h
        show Lower _ (1, session.transport.arrivals.length, loop.buffer.size, loop.stage, _)
        rw [h2, ← transport_beginSend session (.dump turn.request.kind turn.request.family)]
        exact lower_depart hp Nat.zero_lt_two fun _ _ => .left _ _ Nat.one_lt_two
    · rename_i turn hph
      have h1 : loop.stage = 1 := by simp [ReceiveLoop.stage, hp, hph]
      obtain ⟨flight, hf, rfl⟩ := Option.map_eq_some_iff.1 h
      show Lower (depart (session.push flight).2 loop turn (session.push flight).1).rank
        (1, session.transport.arrivals.length, loop.buffer.size, loop.stage,
          session.flight?.elim 0 _)
      rw [h1, hf, ← arrivals_push session flight]
      refine lower_depart hp Nat.zero_lt_one fun next hn => .right _ ?_
      obtain ⟨he, hl⟩ := flight_push hn
      rw [he]
      exact hl
    · split at h
      · rename_i item rest hn
        cases h
        exact lower_take (ReceiveBuffer.size_of_next? hn)
      · exact lower_fill h

theorem lower_tick {session next : Session} (h : session.tick = some next) :
    Lower next.rank session.rank := by
  unfold tick at h
  split at h
  · rename_i loop hr
    have he : (session.resume loop).rank = session.rank := by simp [rank, resume, hr]
    exact he ▸ lower_advance h
  · cases h

/-- Lets the receive loop run until it has to wait, or comes to a step that it may not take
yet. -/
def runWhile (allowed : Session → Bool) (session : Session) : Session :=
  match h : session.tick with
  | none => session
  | some next =>
    have := lower_tick h
    if allowed session then runWhile allowed next else session
termination_by session.rank
decreasing_by exact this

def settle (session : Session) : Session := session.runWhile fun _ => true

end Session
end RouteNetlink
