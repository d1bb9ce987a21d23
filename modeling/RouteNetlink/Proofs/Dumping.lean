import RouteNetlink.Proofs.Entries

/-! The dumps of a receive loop, told from what happened: which one it may ask for next, and
what the one that it awaits can end with. -/
namespace RouteNetlink
namespace Office

def dumps (trace : List Event) : List (DumpTurn × Message) :=
  trace.filterMap fun
    | .framed (.dump turn) message => some (turn, message)
    | _ => none

def starts (trace : List Event) : List (List DumpRequest) :=
  trace.filterMap fun
    | .started requests => some requests
    | _ => none

@[simp] theorem dumps_append (past events : List Event) :
    dumps (past ++ events) = dumps past ++ dumps events := List.filterMap_append ..

@[simp] theorem starts_append (past events : List Event) :
    starts (past ++ events) = starts past ++ starts events := List.filterMap_append ..

/-- The dump that was asked for last, and what happened since. -/
structure Latest (past : List Event) (turn : DumpTurn) (request : Message)
    (since : List Event) : Prop where
  split : ∃ before, past = before ++ .framed (.dump turn) request :: since
  last : dumps since = []

/-- An answer with an error number to the request was taken for the failure of the dump. -/
def Failed (port : UInt32) (turn : DumpTurn) (request : Message) (since : List Event) : Prop :=
  ∃ phase item namespaceId? reply,
    .took phase item namespaceId? (.failed turn reply.code) ∈ since ∧
      answered port item namespaceId? = some reply ∧
      reply.request.sequence = request.header.sequence ∧ reply.code ≠ 0

/-- The end of the dump has gone into the stream. -/
def Done (request : Message) (since : List Event) : Prop :=
  ∃ message, .forwarded message ∈ since ∧ message.body = .done ∧
    message.header.sequence = request.header.sequence

/-- The dump that is to be asked for next: the first one, once more one that has failed, or the
one behind another that is done. -/
inductive Due (port : UInt32) (attempts : Nat) (todo : List DumpRequest) (past : List Event) :
    DumpTurn → Prop where
  | first {turn : DumpTurn} (hd : dumps past = []) (ht : todo = turn.request :: turn.later)
      (ha : turn.attempt = 1) : Due port attempts todo past turn
  | again {turn : DumpTurn} {request : Message} {since : List Event}
      (hl : Latest past turn request since) (hf : Failed port turn request since)
      (ha : turn.attempt < attempts) :
    Due port attempts todo past { turn with attempt := turn.attempt + 1 }
  | behind {turn next : DumpTurn} {request : Message} {since : List Event}
      (hl : Latest past turn request since) (hd : Done request since)
      (ht : turn.later = next.request :: next.later) (ha : next.attempt = 1) :
    Due port attempts todo past next

/-- How the phase of a receive loop follows from what has happened. -/
inductive Stands (port : UInt32) (attempts : Nat) (todo : List DumpRequest)
    (past : List Event) (flight? : Option Flight) : Phase → Prop where
  | asking {turn : DumpTurn} (hd : Due port attempts todo past turn) :
    Stands port attempts todo past flight? (.asking turn)
  | sending {turn : DumpTurn} {request : Message} {since : List Event} {left : List UInt8}
      (hl : Latest past turn request since) (hf : ¬Failed port turn request since)
      (hd : ¬Done request since)
      (hs : flight? = some ⟨⟨request.header.sequence, none⟩, left⟩) :
    Stands port attempts todo past flight? (.sending turn)
  | awaiting {turn : DumpTurn} {request : Message} {since : List Event}
      (hl : Latest past turn request since) (hf : ¬Failed port turn request since)
      (hd : ¬Done request since) :
    Stands port attempts todo past flight? (.awaiting turn request.header.sequence)
  | idle (hd : dumps past = []) (ht : todo = []) :
    Stands port attempts todo past flight? .streaming
  | done {turn : DumpTurn} {request : Message} {since : List Event}
      (hl : Latest past turn request since) (hd : Done request since) (ht : turn.later = []) :
    Stands port attempts todo past flight? .streaming

variable {past events since : List Event} {turn : DumpTurn} {request : Message}

theorem Latest.append (h : Latest past turn request since) (hd : dumps events = []) :
    Latest (past ++ events) turn request (since ++ events) where
  split := by
    obtain ⟨before, rfl⟩ := h.split
    exact ⟨before, by simp⟩
  last := by simp [h.last, hd]

theorem Latest.new (past : List Event) (turn : DumpTurn) (request : Message) :
    Latest (past ++ [.framed (.dump turn) request]) turn request [] where
  split := ⟨past, rfl⟩
  last := rfl

theorem Latest.mem (h : Latest past turn request since) :
    .framed (.dump turn) request ∈ past := by
  obtain ⟨before, rfl⟩ := h.split
  simp

theorem Latest.ne_nil (h : Latest past turn request since) : dumps past ≠ [] := by
  obtain ⟨before, rfl⟩ := h.split
  simp [dumps]

theorem dumps_mem {trace : List Event} (h : .framed (.dump turn) request ∈ trace) :
    dumps trace ≠ [] := by
  obtain ⟨before, since, rfl⟩ := List.append_of_mem h
  simp [dumps]

/-- The latest dump is one. -/
theorem Latest.unique {turn' : DumpTurn} {request' : Message} {since' : List Event}
    (h : Latest past turn request since) (h' : Latest past turn' request' since') :
    turn = turn' ∧ request = request' ∧ since = since' := by
  obtain ⟨before, rfl⟩ := h.split
  obtain ⟨before', heq⟩ := h'.split
  rcases List.append_eq_append_iff.1 heq with ⟨middle, -, hm⟩ | ⟨middle, -, hm⟩
  · cases middle with
    | nil => simpa [and_assoc] using hm
    | cons first middle =>
      obtain ⟨-, rfl⟩ := List.cons.inj hm
      exact absurd h.last (dumps_mem (List.mem_append_right _ List.mem_cons_self))
  · cases middle with
    | nil =>
      obtain ⟨⟨rfl, rfl⟩, rfl⟩ : (turn' = turn ∧ request' = request) ∧ since' = since := by
        simpa using hm
      exact ⟨rfl, rfl, rfl⟩
    | cons first middle =>
      obtain ⟨-, rfl⟩ := List.cons.inj hm
      exact absurd h'.last (dumps_mem (List.mem_append_right _ List.mem_cons_self))

structure Neutral (events : List Event) : Prop where
  dumps : dumps events = []
  failed : ∀ phase item namespaceId? turn code,
    .took phase item namespaceId? (.failed turn code) ∉ events
  forwarded : ∀ message, .forwarded message ∉ events

variable {port : UInt32} {attempts : Nat} {todo : List DumpRequest} {flight? : Option Flight}
  {phase : Phase}

theorem Failed.append (h : Failed port turn request since) (events : List Event) :
    Failed port turn request (since ++ events) := by
  obtain ⟨phase, item, id?, reply, hm, hrest⟩ := h
  exact ⟨phase, item, id?, reply, List.mem_append_left _ hm, hrest⟩

theorem Done.append (h : Done request since) (events : List Event) :
    Done request (since ++ events) := by
  obtain ⟨message, hm, hrest⟩ := h
  exact ⟨message, List.mem_append_left _ hm, hrest⟩

theorem not_failed_append (h : ¬Failed port turn request since)
    (he : ∀ phase item namespaceId? turn code,
      .took phase item namespaceId? (.failed turn code) ∉ events) :
    ¬Failed port turn request (since ++ events) := by
  rintro ⟨phase, item, id?, reply, hm, hrest⟩
  rcases List.mem_append.1 hm with hm | hm
  · exact h ⟨phase, item, id?, reply, hm, hrest⟩
  · exact he _ _ _ _ _ hm

theorem not_done_append (h : ¬Done request since)
    (he : ∀ message, .forwarded message ∈ events → message.body = .done →
      message.header.sequence ≠ request.header.sequence) : ¬Done request (since ++ events) := by
  rintro ⟨message, hm, hb, hs⟩
  rcases List.mem_append.1 hm with hm | hm
  · exact h ⟨message, hm, hb, hs⟩
  · exact he message hm hb hs

theorem Due.append (h : Due port attempts todo past turn) (hd : dumps events = []) :
    Due port attempts todo (past ++ events) turn := by
  cases h with
  | first hp ht ha => exact .first (by simp [hp, hd]) ht ha
  | again hl hf ha => exact .again (hl.append hd) (hf.append events) ha
  | behind hl hdone ht ha => exact .behind (hl.append hd) (hdone.append events) ht ha

theorem Stands.append (h : Stands port attempts todo past flight? phase) (hn : Neutral events) :
    Stands port attempts todo (past ++ events) flight? phase := by
  cases h with
  | asking hd => exact .asking (hd.append hn.dumps)
  | sending hl hf hd hs =>
    exact .sending (hl.append hn.dumps) (not_failed_append hf hn.failed)
      (not_done_append hd fun message hm => absurd hm (hn.forwarded message)) hs
  | awaiting hl hf hd =>
    exact .awaiting (hl.append hn.dumps) (not_failed_append hf hn.failed)
      (not_done_append hd fun message hm => absurd hm (hn.forwarded message))
  | idle hd ht => exact .idle (by simp [hd, hn.dumps]) ht
  | done hl hd ht => exact .done (hl.append hn.dumps) (hd.append events) ht

/-- A flush is of no account to a loop that does not send. -/
theorem Stands.of_flight {other? : Option Flight}
    (h : Stands port attempts todo past flight? phase) (hp : ∀ turn, phase ≠ .sending turn) :
    Stands port attempts todo past other? phase := by
  cases h with
  | asking hd => exact .asking hd
  | sending => exact absurd rfl (hp _)
  | awaiting hl hf hd => exact .awaiting hl hf hd
  | idle hd ht => exact .idle hd ht
  | done hl hd ht => exact .done hl hd ht

/-- Where a loop starts, by what it has to do. -/
theorem stands_start (hp : dumps past = []) :
    Stands port attempts todo past flight? (.start todo) := by
  cases todo with
  | nil => exact .idle hp rfl
  | cons request later => exact .asking (.first hp rfl rfl)

/-- Where the end of a dump leads. -/
theorem stands_behind (hl : Latest past turn request since) (hd : Done request since) :
    Stands port attempts todo past flight? (.start turn.later) := by
  cases ht : turn.later with
  | nil => exact .done hl hd ht
  | cons next later => exact .asking (.behind hl hd ht rfl)

/-- A message in the stream leaves the loop where it stands, or ends the awaited dump. -/
theorem Stands.forward (h : Stands port attempts todo past flight? phase) (message : Message)
    (hp : ∀ turn, phase ≠ .sending turn) :
    Stands port attempts todo (past ++ [.forwarded message]) flight? (phase.after message) := by
  cases h with
  | asking hd => exact .asking (hd.append rfl)
  | sending => exact absurd rfl (hp _)
  | @awaiting turn request since hl hf hd =>
    have hlatest := hl.append (show dumps [.forwarded message] = [] from rfl)
    simp only [Phase.after]
    split
    · rename_i hm
      exact stands_behind hlatest ⟨message, by simp, hm.1, hm.2⟩
    · rename_i hm
      refine .awaiting hlatest (not_failed_append hf (by simp)) (not_done_append hd ?_)
      intro other ho hb hs
      obtain rfl : other = message := by simpa using ho
      exact hm ⟨hb, hs⟩
  | idle hd ht => exact .idle (by rw [dumps_append, hd]; rfl) ht
  | done hl hd ht => exact .done (hl.append rfl) (hd.append _) ht

/-- A dump is asked for only when it is due, by a request of its kind and family. -/
def Warranted (port : UInt32) (settings : Settings) (past : List Event) : Event → Prop
  | .framed (.dump turn) message =>
    (∃ requests, starts past = [requests] ∧
      Due port settings.dumpAttempts (settings.dumpsFor requests) past turn) ∧
    message.header.kind = turn.request.kind ∧ message.body = .query turn.request.family
  | _ => True

/-- The receive loop stands where the past has led it. -/
structure Staged (past : List Event) (office : Office) : Prop where
  idle : office.session.receiving = .idle → starts past = [] ∧ dumps past = []
  begun : office.session.receiving ≠ .idle → ∃ requests, starts past = [requests]
  running : ∀ loop requests, office.session.receiving = .running loop →
    starts past = [requests] →
      Stands office.session.port office.session.settings.dumpAttempts
        (office.session.settings.dumpsFor requests) past office.session.flight? loop.phase
  warranted : Each (Warranted office.session.port office.session.settings) past

variable {given : Message → Prop} {office next : Office}

theorem Staged.new (settings : Settings) (port : UInt32) (transport : Transport) :
    Staged [] (.new settings port transport) where
  idle := fun _ => ⟨rfl, rfl⟩
  begun := fun h => absurd rfl h
  running := by simp [Office.new, Session.new]
  warranted := .nil

theorem warranted_append {settings : Settings} (h : Each (Warranted port settings) past)
    (hd : dumps events = []) : Each (Warranted port settings) (past ++ events) := by
  refine h.append_free fun event hm past => ?_
  unfold Warranted
  split
  · exact absurd hd (dumps_mem hm)
  · trivial

/-- Events that are nothing to the receive loop. -/
theorem Staged.still (h : Staged past office) (hn : Neutral events) (hs : starts events = [])
    (hr : next.session.receiving = office.session.receiving)
    (hp : next.session.port = office.session.port)
    (hc : next.session.settings = office.session.settings)
    (hf : ∀ loop attempts todo trace, office.session.receiving = .running loop →
      Stands office.session.port attempts todo trace office.session.flight? loop.phase →
      Stands office.session.port attempts todo trace next.session.flight? loop.phase) :
    Staged (past ++ events) next := by
  exact
    { idle := by
        intro hi
        obtain ⟨hstarts, hdumps⟩ := h.idle (hr ▸ hi)
        exact ⟨by simp [hstarts, hs], by simp [hdumps, hn.dumps]⟩
      begun := by
        intro hi
        obtain ⟨requests, hstarts⟩ := h.begun (hr ▸ hi)
        exact ⟨requests, by simp [hstarts, hs]⟩
      running := by
        intro loop requests hl hstarts
        rw [hr] at hl
        rw [starts_append, hs, List.append_nil] at hstarts
        rw [hp, hc]
        exact hf loop _ _ _ hl ((h.running loop requests hl hstarts).append hn)
      warranted := by
        rw [hp, hc]
        exact warranted_append h.warranted hn.dumps }

/-- A running loop that goes on to another phase. -/
theorem Staged.go_on (h : Staged past office) {loop after : ReceiveLoop}
    (hl : office.session.receiving = .running loop)
    (hr : next.session.receiving = .running after) (hs : starts events = [])
    (hd : dumps events = []) (hp : next.session.port = office.session.port)
    (hc : next.session.settings = office.session.settings)
    (hstands : ∀ todo,
      Stands office.session.port office.session.settings.dumpAttempts todo past
        office.session.flight? loop.phase →
      Stands office.session.port office.session.settings.dumpAttempts todo (past ++ events)
        next.session.flight? after.phase) :
    Staged (past ++ events) next := by
  exact
    { idle := by simp [hr]
      begun := by
        intro _
        obtain ⟨requests, hstarts⟩ := h.begun (by simp [hl])
        exact ⟨requests, by simp [hstarts, hs]⟩
      running := by
        intro other requests ho hstarts
        obtain rfl := Receiving.running.inj (hr.symm.trans ho)
        rw [starts_append, hs, List.append_nil] at hstarts
        rw [hp, hc]
        exact hstands _ (h.running loop requests hl hstarts)
      warranted := by
        rw [hp, hc]
        exact warranted_append h.warranted hd }

/-- A loop that stops. -/
theorem Staged.stop (h : Staged past office) {loop : ReceiveLoop} {result : Except Fault Unit}
    (hl : office.session.receiving = .running loop)
    (hr : next.session.receiving = .stopped result) (hs : starts events = [])
    (hd : dumps events = []) (hp : next.session.port = office.session.port)
    (hc : next.session.settings = office.session.settings) : Staged (past ++ events) next := by
  exact
    { idle := by simp [hr]
      begun := by
        intro _
        obtain ⟨requests, hstarts⟩ := h.begun (by simp [hl])
        exact ⟨requests, by simp [hstarts, hs]⟩
      running := by simp [hr]
      warranted := by
        rw [hp, hc]
        exact warranted_append h.warranted hd }

/-- A loop that asks for the dump that is due. -/
theorem Staged.ask (h : Staged past office) {loop : ReceiveLoop} {turn : DumpTurn}
    {message : Message} {left : List UInt8} (hl : office.session.receiving = .running loop)
    (ha : loop.phase = .asking turn)
    (hr : next.session.receiving = .running { loop with phase := .sending turn })
    (hf : next.session.flight? = some ⟨⟨message.header.sequence, none⟩, left⟩)
    (hp : next.session.port = office.session.port)
    (hc : next.session.settings = office.session.settings)
    (hk : message.header.kind = turn.request.kind)
    (hb : message.body = .query turn.request.family) :
    Staged (past ++ [.framed (.dump turn) message]) next := by
  obtain ⟨requests, hstarts⟩ := h.begun (by simp [hl])
  have hnew : starts (past ++ [.framed (.dump turn) message]) = [requests] := by
    rw [starts_append, hstarts]
    rfl
  have hstands := h.running loop requests hl hstarts
  rw [ha] at hstands
  cases hstands with
  | asking hdue =>
    refine ⟨by simp [hr], fun _ => ⟨requests, hnew⟩, ?_, ?_⟩
    · intro other requests' ho _
      obtain rfl := Receiving.running.inj (hr.symm.trans ho)
      exact .sending (.new past turn message) (by simp [Failed]) (by simp [Done]) hf
    · rw [hp, hc]
      exact h.warranted.append_cons ⟨⟨requests, hstarts, hdue⟩, hk, hb⟩ (by simp)

theorem Staged.effect (h : Staged past office) (hb : Booked past office)
    (he : Effect given office events next) : Staged (past ++ events) next := by
  cases he with
  | start requests hl hi =>
    obtain ⟨hstarts, hdumps⟩ := h.idle hi
    have hnew : starts (past ++ [.started requests]) = [requests] := by
      rw [starts_append, hstarts]
      rfl
    refine ⟨by simp, fun _ => ⟨requests, hnew⟩, ?_, warranted_append h.warranted rfl⟩
    rintro _ requests' ⟨⟩ hstarts'
    obtain rfl : requests = requests' := by simpa [hnew] using hstarts'
    exact stands_start (by rw [dumps_append, hdumps]; rfl)
  | ask hl hp ha hf hm =>
    subst hm
    exact h.ask hl ha rfl rfl rfl rfl rfl rfl
  | @await session held loop turn sequence hl ha hf =>
    refine h.go_on hl rfl rfl rfl rfl rfl fun todo hstands => ?_
    rw [ha] at hstands
    cases hstands with
    | @sending _ request since left hlatest hfailed hdone hs =>
      obtain ⟨rfl, -⟩ : sequence = request.header.sequence ∧ left = [] := by
        simpa [hf, eq_comm] using hs
      exact Stands.append (.awaiting hlatest hfailed hdone) ⟨rfl, by simp, by simp⟩
  | drop hl | deliver hl | push hl | receive hl =>
    exact h.go_on hl.running rfl rfl rfl rfl rfl fun todo hstands =>
      hstands.append ⟨rfl, by simp, by simp⟩
  | @retry session held loop item rest message reply turn sequence hl hn hh ha hw hp hs hc ht =>
    refine h.go_on hl.running rfl rfl rfl rfl rfl fun todo hstands => ?_
    rw [hp] at hstands ⊢
    cases hstands with
    | awaiting hlatest hfailed hdone =>
      refine .asking (.again (hlatest.append rfl) ?_ ht)
      exact ⟨_, item, rest.namespaceId?, reply, List.mem_append_right _ List.mem_cons_self,
        by simp [answered, hh, ha], hs, hc⟩
  | forward hl hp =>
    have hparked := (hb.steady.parked _ hl (by simp [hp])).2
    exact h.go_on hl rfl rfl rfl rfl rfl fun todo hstands => hstands.forward _ hparked
  | founder hl | stop hl => exact h.stop hl rfl rfl rfl rfl rfl
  | exhaust hl => exact h.stop hl.running rfl rfl rfl rfl rfl
  | reserve hf | launch _ hf =>
    exact h.still ⟨rfl, by simp, by simp⟩ rfl rfl rfl rfl fun loop _ _ _ hl hstands =>
      hstands.of_flight fun turn => hb.steady.apart hf loop turn hl
  | write hf =>
    refine h.still ⟨rfl, by simp, by simp⟩ rfl rfl rfl rfl fun loop _ _ _ hl hstands => ?_
    cases hphase : loop.phase with
    | sending turn =>
      rw [hphase] at hstands
      cases hstands with
      | sending hlatest hfailed hdone hs =>
        obtain ⟨rfl, -⟩ : _ = _ ∧ _ := by simpa [hf] using hs
        exact .sending hlatest hfailed hdone rfl
    | _ => exact hphase ▸ hstands.of_flight (by simp [hphase])
  | land hf ha =>
    exact h.still ⟨rfl, by simp, by simp⟩ rfl rfl rfl rfl fun loop _ _ _ hl hstands =>
      hstands.of_flight fun turn => ha loop turn hl
  | @crash session held receipt left fault hf ha =>
    obtain ⟨sequence, reservation?⟩ := receipt
    cases reservation? <;>
      exact h.still ⟨rfl, by simp, by simp⟩ rfl rfl rfl rfl fun loop _ _ _ hl hstands =>
        hstands.of_flight fun turn => ha loop turn hl
  | close hc =>
    rw [close_of_open hc]
    exact h.still ⟨rfl, by simp, by simp⟩ rfl rfl rfl rfl fun _ _ _ _ _ hstands => hstands
  | _ => exact h.still ⟨rfl, by simp, by simp⟩ rfl rfl rfl rfl fun _ _ _ _ _ hstands => hstands

end Office
end RouteNetlink
