import Mathlib.Data.List.Induction
import RouteNetlink.Proofs.Dumping
import RouteNetlink.Proofs.Fates
import RouteNetlink.Proofs.Numbering

/-! Dumps in whole runs: one at a time and in order, each as often as it fails, and nothing
but its own end or its own failure leads away from one. -/
namespace RouteNetlink
namespace Office

/-- The turns in which requests are asked for, each so many times. -/
def turns : List DumpRequest → List Nat → List DumpTurn
  | request :: later, count :: counts =>
    (List.range count).map (fun failures => ⟨request, failures + 1, later⟩) ++
      turns later counts
  | _, _ => []

theorem turns_append {before : List DumpRequest} {counts : List Nat}
    (h : before.length = counts.length) (later : List DumpRequest) (more : List Nat) :
    turns (before ++ later) (counts ++ more) =
      turns (before ++ later) counts ++ turns later more := by
  induction before generalizing counts with
  | nil =>
    obtain rfl := List.eq_nil_of_length_eq_zero h.symm
    cases later <;> simp [turns]
  | cons request before ih =>
    obtain ⟨count, counts, rfl⟩ := List.exists_cons_of_length_eq_add_one h.symm
    simp [turns, ih (Nat.succ.inj h)]

/-- The requests are asked for in their order, so often each, and last in this turn. -/
structure Course (attempts : Nat) (todo : List DumpRequest) (counts : List Nat)
    (turn : DumpTurn) (asked : List DumpTurn) : Prop where
  asked : asked = turns todo (counts ++ [turn.attempt])
  bounded : ∀ count ∈ counts ++ [turn.attempt], 1 ≤ count ∧ count ≤ attempts
  split : ∃ before, before.length = counts.length ∧
    todo = before ++ turn.request :: turn.later

section Course

variable {attempts : Nat} {todo : List DumpRequest} {counts : List Nat}
  {turn next : DumpTurn} {asked : List DumpTurn}

theorem Course.first (ht : todo = turn.request :: turn.later) (ha : turn.attempt = 1)
    (hpos : 1 ≤ attempts) : Course attempts todo [] turn [turn] where
  asked := by
    obtain ⟨request, attempt, later⟩ := turn
    obtain rfl : attempt = 1 := ha
    simp [ht, turns]
  bounded := by simp [ha, hpos]
  split := ⟨[], rfl, ht⟩

theorem Course.again (h : Course attempts todo counts turn asked)
    (ha : turn.attempt < attempts) :
    Course attempts todo counts { turn with attempt := turn.attempt + 1 }
      (asked ++ [{ turn with attempt := turn.attempt + 1 }]) := by
  obtain ⟨before, hlength, rfl⟩ := h.split
  refine ⟨?_, ?_, before, hlength, rfl⟩
  · rw [h.asked, turns_append hlength, turns_append hlength]
    simp [turns, List.range_succ]
  · intro count hm
    rcases List.mem_append.1 hm with hm | hm
    · exact h.bounded count (List.mem_append_left _ hm)
    · obtain rfl := List.mem_singleton.1 hm
      exact ⟨Nat.le_add_left .., ha⟩

theorem Course.behind (h : Course attempts todo counts turn asked)
    (ht : turn.later = next.request :: next.later) (ha : next.attempt = 1) :
    Course attempts todo (counts ++ [turn.attempt]) next (asked ++ [next]) := by
  obtain ⟨before, hlength, rfl⟩ := h.split
  obtain ⟨request, attempt, later⟩ := next
  obtain rfl : attempt = 1 := ha
  have hlength' : (before ++ [turn.request]).length = (counts ++ [turn.attempt]).length := by
    simp [hlength]
  have htodo : before ++ turn.request :: turn.later =
      (before ++ [turn.request]) ++ request :: later := by simp [ht]
  have hbounds := h.bounded turn.attempt (by simp)
  refine ⟨?_, ?_, _, hlength', htodo⟩
  · rw [h.asked, htodo, turns_append hlength']
    simp [turns]
  · intro count hm
    rcases List.mem_append.1 hm with hm | hm
    · exact h.bounded count hm
    · obtain rfl := List.mem_singleton.1 hm
      exact ⟨le_rfl, hbounds.1.trans hbounds.2⟩

theorem Course.length_le (h : Course attempts todo counts turn asked) :
    (counts ++ [turn.attempt]).length ≤ todo.length := by
  obtain ⟨before, hlength, rfl⟩ := h.split
  simp [hlength]

end Course

variable {port : UInt32} {settings : Settings} {requests : List DumpRequest}
  {past events trace : List Event}

theorem dumps_eq_nil_of_starts (h : Each (Warranted port settings) trace)
    (hs : starts trace = []) : dumps trace = [] := by
  refine List.eq_nil_iff_forall_not_mem.2 fun ⟨turn, message⟩ hm => ?_
  obtain ⟨event, hevent, he⟩ := List.mem_filterMap.1 hm
  split at he
  · obtain ⟨before, later, rfl⟩ := List.append_of_mem hevent
    obtain ⟨⟨requests, hbefore, -⟩, -⟩ := h before _ later rfl
    simp [hbefore] at hs
  · cases he

/-- No dump was asked for yet, or the dumps have followed their course up to the latest. -/
def OnCourse (attempts : Nat) (todo : List DumpRequest) (past : List Event) : Prop :=
  dumps past = [] ∨ ∃ counts turn request since, Latest past turn request since ∧
    Course attempts todo counts turn ((dumps past).map Prod.fst)

section OnCourse

variable {attempts : Nat} {todo : List DumpRequest} {turn : DumpTurn}

theorem OnCourse.append (h : OnCourse attempts todo past) (hd : dumps events = []) :
    OnCourse attempts todo (past ++ events) := by
  unfold OnCourse
  rw [dumps_append, hd, List.append_nil]
  rcases h with hnone | ⟨counts, turn, request, since, hl, hc⟩
  · exact .inl hnone
  · exact .inr ⟨counts, turn, request, _, hl.append hd, hc⟩

/-- A dump that is due keeps to the course. -/
theorem OnCourse.due (h : OnCourse attempts todo past) (hpos : 1 ≤ attempts)
    (hdue : Due port attempts todo past turn) (message : Message) :
    OnCourse attempts todo (past ++ [.framed (.dump turn) message]) := by
  have hdumps : (dumps (past ++ [.framed (.dump turn) message])).map Prod.fst =
      (dumps past).map Prod.fst ++ [turn] := by
    rw [dumps_append, List.map_append]
    rfl
  have hlatest := Latest.new past turn message
  unfold OnCourse
  rw [hdumps]
  refine .inr ?_
  cases hdue with
  | first hd ht ha =>
    rw [hd]
    exact ⟨_, _, _, _, hlatest, .first ht ha hpos⟩
  | again hl _ ha =>
    rcases h with hnone | ⟨counts, last, request, since, hl', hc⟩
    · exact absurd hnone hl.ne_nil
    · obtain ⟨rfl, -, -⟩ := hl.unique hl'
      exact ⟨_, _, _, _, hlatest, hc.again ha⟩
  | behind hl _ ht ha =>
    rcases h with hnone | ⟨counts, last, request, since, hl', hc⟩
    · exact absurd hnone hl.ne_nil
    · obtain ⟨rfl, -, -⟩ := hl.unique hl'
      exact ⟨_, _, _, _, hlatest, hc.behind ht ha⟩

end OnCourse

/-- Where each dump is asked for when it is due, they follow their course. -/
theorem onCourse_of_warranted (h : Each (Warranted port settings) trace)
    (hs : starts trace = [requests]) :
    OnCourse settings.dumpAttempts (settings.dumpsFor requests) trace := by
  induction trace using List.reverseRecOn with
  | nil => exact .inl rfl
  | append_singleton past event ih =>
    have hpast := h.of_append
    rw [starts_append] at hs
    cases event with
    | started other =>
      have hnone : starts past = [] := by
        have hlength := congrArg List.length hs
        rw [List.length_append] at hlength
        exact List.eq_nil_of_length_eq_zero (Nat.succ.inj hlength)
      exact .inl (by rw [dumps_append, dumps_eq_nil_of_starts hpast hnone]; rfl)
    | framed purpose message =>
      have hstarts : starts past = [requests] := (List.append_nil _).symm.trans hs
      cases purpose with
      | dump turn =>
        obtain ⟨⟨other, ho, hdue⟩, -⟩ := h past _ [] rfl
        obtain rfl : requests = other := by simpa [hstarts] using ho
        exact (ih hpast hstarts).due settings.dumpAttempts_pos hdue message
      | _ => exact (ih hpast hstarts).append rfl
    | _ => exact (ih hpast ((List.append_nil _).symm.trans hs)).append rfl

/-- A record is taken in the phase that the dumps have come to, and it is taken for a failure
exactly if it is an answer with an error number to the dump that is awaited. -/
structure Attentive (port : UInt32) (todo : List DumpRequest) (past : List Event)
    (phase : Phase) (item : Except Fault (List UInt8)) (namespaceId? : Option Int32)
    (fate : Fate) : Prop where
  /-- Until it has failed or is done, the latest dump is awaited. -/
  awaits : ∀ turn request since, Latest past turn request since →
    ¬Failed port turn request since → ¬Done request since →
      phase = .awaiting turn request.header.sequence
  /-- Behind the last dump, and only there, all is streamed. -/
  streams : phase = .streaming → dumps past = [] ∧ todo = [] ∨
    ∃ turn request since, Latest past turn request since ∧ Done request since ∧
      turn.later = []
  fails_iff : ∀ turn code, fate = .failed turn code ↔
    ∃ request since reply, Latest past turn request since ∧
      ¬Failed port turn request since ∧ ¬Done request since ∧
      answered port item namespaceId? = some reply ∧
      reply.request.sequence = request.header.sequence ∧ reply.code = code ∧ code ≠ 0

def Attended (port : UInt32) (settings : Settings) (past : List Event) : Event → Prop
  | .took phase item namespaceId? fate =>
    ∃ requests, starts past = [requests] ∧
      Attentive port (settings.dumpsFor requests) past phase item namespaceId? fate
  | _ => True

/-- The failure of a last attempt ends the loop at once. -/
def Exhausts (attempts : Nat) (trace : List Event) : Prop :=
  ∀ past phase item namespaceId? turn code later,
    trace = past ++ .took phase item namespaceId? (.failed turn code) :: later →
    attempts ≤ turn.attempt → ∃ rest, later = .stopped (.error (.ofCode code)) :: rest

/-- The loop ends with an answer of the kernel only when the last attempt has failed. -/
def Blamed (attempts : Nat) (past : List Event) : Event → Prop
  | .stopped (.error fault) =>
    fault.isKernel = true → ∃ before phase item namespaceId? turn code,
      past = before ++ [.took phase item namespaceId? (.failed turn code)] ∧
        attempts ≤ turn.attempt ∧ fault = .ofCode code
  | _ => True

section

variable {attempts : Nat} {todo : List DumpRequest} {flight? : Option Flight} {phase : Phase}
  {turn : DumpTurn} {request : Message} {since : List Event}

theorem Stands.awaits (h : Stands port attempts todo past flight? phase)
    (ha : ∀ turn, phase ≠ .asking turn) (hs : ∀ turn, phase ≠ .sending turn)
    (hl : Latest past turn request since) (hd : ¬Done request since) :
    phase = .awaiting turn request.header.sequence := by
  cases h with
  | asking => exact absurd rfl (ha _)
  | sending => exact absurd rfl (hs _)
  | awaiting hl' =>
    obtain ⟨rfl, rfl, -⟩ := hl.unique hl'
    rfl
  | idle hn => exact absurd hn hl.ne_nil
  | done hl' hd' =>
    obtain ⟨rfl, rfl, rfl⟩ := hl.unique hl'
    exact absurd hd' hd

theorem Stands.streams (h : Stands port attempts todo past flight? .streaming) :
    dumps past = [] ∧ todo = [] ∨ ∃ turn request since, Latest past turn request since ∧
      Done request since ∧ turn.later = [] := by
  cases h with
  | idle hd ht => exact .inl ⟨hd, ht⟩
  | done hl hd ht => exact .inr ⟨_, _, _, hl, hd, ht⟩

end

variable {office next : Office}

/-- No dump has the number of a request whose reply is reserved. -/
theorem Numbered.undumped (h : Numbered past office) {turn : DumpTurn} {dump : Message}
    {r : Reservation} {request : Header} (hm : .framed (.dump turn) dump ∈ past)
    (hr : .reserved r request ∈ past) : r.sequence ≠ dump.header.sequence := by
  obtain ⟨message, hmessage, rfl, hs⟩ := h.reserved r request hr
  rw [hs]
  intro he
  cases (h.framed_unique hmessage hm he).1

theorem attentive_take {loop : ReceiveLoop} {item : Except Fault (List UInt8)}
    {namespaceId? : Option Int32} {fate : Fate} (hstaged : Staged past office)
    (hn : Numbered past office) (hl : Ready office.session loop)
    (hsettled : Settled office.session.port past (.took loop.phase item namespaceId? fate)) :
    Attended office.session.port office.session.settings past
      (.took loop.phase item namespaceId? fate) := by
  obtain ⟨requests, hstarts⟩ := hstaged.begun (by simp [hl.running])
  have hstands := hstaged.running loop requests hl.running hstarts
  have hawaits {turn request since} (hlatest : Latest past turn request since)
      (hd : ¬Done request since) :=
    hstands.awaits hl.unasking hl.unsending hlatest hd
  refine ⟨requests, hstarts, fun _ _ _ hlatest _ hd => hawaits hlatest hd, fun hp => ?_,
    fun turn code => ⟨?_, ?_⟩⟩
  · rw [hp] at hstands
    exact hstands.streams
  · rintro rfl
    obtain ⟨message, reply, hh, ha, -, hp, hcode, hne⟩ := (hsettled _).2 rfl
    rw [hp] at hstands
    generalize hsequence : reply.request.sequence = sequence at hstands
    cases hstands with
    | awaiting hlatest hf hd =>
      exact ⟨_, _, reply, hlatest, hf, hd, by simp [answered, hh, ha], hsequence, hcode, hne⟩
  · rintro ⟨request, since, reply, hlatest, hf, hd, ha, hs, rfl, hne⟩
    have hp := hawaits hlatest hd
    obtain ⟨message, hh, ha⟩ := Option.bind_eq_some_iff.1 ha
    have hfree : ∀ r, Ledger.Awaits (entries past) r →
        r.sequence ≠ reply.request.sequence := by
      intro r hr
      obtain ⟨header, hreserved⟩ := registered_mem_entries.1 hr.registered
      exact hs ▸ hn.undumped hlatest.mem hreserved
    exact ((hsettled (.failed turn reply.code)).1
      ⟨message, reply, hh, ha, hfree, hs ▸ hp, rfl, hne⟩).symm

theorem attended_effect {given : Message → Prop} (hstaged : Staged past office)
    (hn : Numbered past office) (hsettled : Each (Settled office.session.port) (past ++ events))
    (h : Each (Attended office.session.port office.session.settings) past)
    (he : Effect given office events next) :
    Each (Attended office.session.port office.session.settings) (past ++ events) := by
  refine h.append fun earlier event later heq => ?_
  cases event with
  | took phase item namespaceId? fate =>
    obtain ⟨rfl, loop, hl, rfl⟩ := he.ready_of_took heq
    rw [List.append_nil]
    exact attentive_take hstaged hn hl (hsettled past _ later (by simp [heq]))
  | _ => trivial

theorem Exhausts.append {attempts : Nat} (h : Exhausts attempts past)
    (he : Exhausts attempts events) : Exhausts attempts (past ++ events) := by
  intro before phase item namespaceId? turn code later heq ha
  rcases List.append_eq_append_iff.1 heq with ⟨middle, rfl, hm⟩ | ⟨middle, rfl, hm⟩
  · exact he middle phase item namespaceId? turn code later hm ha
  · cases middle with
    | nil => exact he [] phase item namespaceId? turn code later hm.symm ha
    | cons first middle =>
      obtain ⟨rfl, rfl⟩ := List.cons.inj hm
      obtain ⟨rest, rfl⟩ := h before phase item namespaceId? turn code middle rfl ha
      exact ⟨rest ++ events, rfl⟩

theorem exhausts_effect {given : Message → Prop}
    (h : Exhausts office.session.settings.dumpAttempts past)
    (he : Effect given office events next) :
    Exhausts office.session.settings.dumpAttempts (past ++ events) := by
  refine h.append fun before phase item namespaceId? turn code later heq ha => ?_
  obtain ⟨rfl, -⟩ := he.ready_of_took heq
  cases he with
  | retry _ _ _ _ _ _ _ _ ht =>
    obtain ⟨⟨-, -, -, rfl, -⟩, -⟩ := by simpa using heq
    exact absurd ha (Nat.not_le.2 ht)
  | exhaust =>
    obtain ⟨⟨-, -, -, -, rfl⟩, rfl⟩ := by simpa using heq
    exact ⟨[], rfl⟩
  | _ => simp at heq

theorem blamed_effect {given : Message → Prop}
    (h : Each (Blamed office.session.settings.dumpAttempts) past)
    (he : Effect given office events next) :
    Each (Blamed office.session.settings.dumpAttempts) (past ++ events) := by
  cases he with
  | exhaust _ _ _ _ _ _ _ _ ht =>
    refine h.append fun earlier event later heq => ?_
    cases event with
    | stopped result =>
      obtain ⟨rfl, rfl, rfl⟩ : earlier = [_] ∧ _ ∧ _ := by
        simpa [List.cons_eq_append_iff] using heq
      exact fun _ => ⟨past, _, _, _, _, _, rfl, ht, rfl⟩
    | _ => trivial
  | founder _ _ _ _ _ hr | stop _ _ _ _ hr =>
    refine h.append_free fun event hm past => ?_
    cases event with
    | stopped result =>
      obtain rfl : result = _ := by simpa using hm
      cases result with
      | error fault => exact fun hk => absurd hk (by simp [hr fault rfl])
      | ok => trivial
    | _ => trivial
  | _ =>
    refine h.append_free fun event hm past => ?_
    cases event with
    | stopped => simp at hm
    | _ => trivial

/-- What is known of reservations, numbers, fates and dumps, kept together: the numbers of dumps
are apart from those of reservations only because all of them come from one counter. -/
structure Marshalled (past : List Event) (office : Office) : Prop where
  booked : Booked past office
  staged : Staged past office
  numbered : Numbered past office
  settled : Each (Settled office.session.port) past
  attended : Each (Attended office.session.port office.session.settings) past
  exhausted : Exhausts office.session.settings.dumpAttempts past
  blamed : Each (Blamed office.session.settings.dumpAttempts) past

theorem Marshalled.new (settings : Settings) (port : UInt32) (transport : Transport) :
    Marshalled [] (.new settings port transport) where
  booked := .new ..
  staged := .new ..
  numbered := .new ..
  settled := .nil
  attended := .nil
  exhausted := by simp [Exhausts]
  blamed := .nil

theorem Marshalled.effect (h : Marshalled past office)
    (hfew : framings (past ++ events) + 1 < UInt32.size)
    (he : Effect Unnumbered office events next) : Marshalled (past ++ events) next := by
  have hsettled := settled_effect h.booked h.settled he
  have hattended := attended_effect h.staged h.numbered hsettled h.attended he
  refine ⟨h.booked.effect he, h.staged.effect h.booked he, h.numbered.effect hfew he, ?_, ?_,
    ?_, ?_⟩
  · rwa [he.port]
  · rwa [he.port, he.settings]
  · rw [he.settings]
    exact exhausts_effect h.exhausted he
  · rw [he.settings]
    exact blamed_effect h.blamed he

/-- What holds of the dumps of a receive loop after whatever was done. -/
structure InTurn (port : UInt32) (settings : Settings) (requests : List DumpRequest)
    (trace : List Event) (office : Office) : Prop where
  /-- The requests are asked for in their order, each at least once and no more often than is
  allowed. -/
  asked : ∃ counts, counts.length ≤ (settings.dumpsFor requests).length ∧
    (∀ count ∈ counts, 1 ≤ count ∧ count ≤ settings.dumpAttempts) ∧
    (dumps trace).map Prod.fst = turns (settings.dumpsFor requests) counts
  /-- A dump is asked for again only when it has failed, and the next one only when it is
  done. -/
  warranted : Each (Warranted port settings) trace
  fresh : (framed trace).Pairwise fun request later => number request < number later
  /-- Whatever else is received does not end the dump that is awaited. -/
  attended : Each (Attended port settings) trace
  exhausted : Exhausts settings.dumpAttempts trace
  blamed : Each (Blamed settings.dumpAttempts) trace
  stopped : ∀ result, .stopped result ∈ trace → office.session.receiving = .stopped result

variable {transport : Transport} {actions : List Action}

/-- Dumps run one at a time and in order, each anew only for a failure of its own. -/
theorem run_inTurn (hg : ∀ action ∈ actions, action.Given Unnumbered)
    (hfew : framings trace + 1 < UInt32.size)
    (h : (Office.new settings port transport).run actions = some (office, trace)) :
    starts trace = [] ∧ dumps trace = [] ∨
      ∃ requests, starts trace = [requests] ∧
        InTurn port settings requests trace office := by
  have hall := keep_few Marshalled (.new ..)
    (fun _ _ _ _ hm hfew he => hm.effect hfew he) hg hfew h
  obtain ⟨rfl, rfl⟩ := setup_run hg h
  by_cases hi : office.session.receiving = .idle
  · exact .inl (hall.staged.idle hi)
  · obtain ⟨requests, hstarts⟩ := hall.staged.begun hi
    refine .inr ⟨requests, hstarts, ?_⟩
    exact
      { asked := by
          rcases onCourse_of_warranted hall.staged.warranted hstarts with
            hnone | ⟨counts, turn, request, since, -, hc⟩
          · exact ⟨[], Nat.zero_le _, by simp, by simp [hnone, turns]⟩
          · exact ⟨_, hc.length_le, hc.bounded, hc.asked⟩
        warranted := hall.staged.warranted
        fresh := hall.numbered.increasing
        attended := hall.attended
        exhausted := hall.exhausted
        blamed := hall.blamed
        stopped := hall.booked.stopped }

/-- A dump that fails once, and the one behind it that fails twice. -/
def failingDumps : List Action :=
  [.listen [⟨.getLink, .packet⟩, .noop, ⟨.getAddress, .inet⟩],
    .send (.dump .getRoute .inet), .write, .tick, .tick,
    .arrive (.datagram
      ([36, 0, 0, 0, 2, 0, 0, 0, 2, 0, 0, 0, 0, 0, 0, 0, 240, 255, 255, 255] ++
        [17, 0, 0, 0, 18, 0, 1, 3, 2, 0, 0, 0, 7, 0, 0, 0]) none),
    .tick, .tick, .tick, .tick,
    .arrive (.datagram
      ([16, 0, 0, 0, 3, 0, 0, 0, 2, 0, 0, 0, 7, 0, 0, 0] ++
        [16, 0, 0, 0, 3, 0, 0, 0, 3, 0, 0, 0, 7, 0, 0, 0]) none),
    .tick, .tick, .tick, .tick, .tick, .tick, .tick,
    .arrive (.datagram
      ([36, 0, 0, 0, 2, 0, 0, 0, 4, 0, 0, 0, 0, 0, 0, 0, 240, 255, 255, 255] ++
        [17, 0, 0, 0, 22, 0, 1, 3, 4, 0, 0, 0, 7, 0, 0, 0]) none),
    .tick, .tick, .tick, .tick,
    .arrive (.datagram
      ([36, 0, 0, 0, 2, 0, 0, 0, 5, 0, 0, 0, 0, 0, 0, 0, 240, 255, 255, 255] ++
        [17, 0, 0, 0, 22, 0, 1, 3, 5, 0, 0, 0, 7, 0, 0, 0]) none),
    .tick, .tick]

theorem run_inTurn_failingDumps :
    ∃ requests office trace,
      (Office.new (Settings.standard.withDumpAttempts 2) 7 (.new none)).run failingDumps =
          some (office, trace) ∧
        InTurn 7 (Settings.standard.withDumpAttempts 2) requests trace office ∧
        (dumps trace).length = 4 := by
  have h : ((Office.new (Settings.standard.withDumpAttempts 2) 7 (.new none)).run
      failingDumps).map (fun last => ((dumps last.2).length, framings last.2)) =
        some (4, 5) := by decide +kernel
  obtain ⟨⟨office, trace⟩, hrun, hcounts⟩ := Option.map_eq_some_iff.1 h
  obtain ⟨hlength, hframings⟩ := Prod.mk.inj hcounts
  have hgiven : ∀ action ∈ failingDumps, action.Given Unnumbered := by
    simp [failingDumps, Action.Given, Unnumbered, Message.dump, Header.new]
  have hfew : framings trace + 1 < UInt32.size := by
    rw [hframings]
    decide
  rcases run_inTurn hgiven hfew hrun with ⟨-, hnone⟩ | ⟨requests, -, hturns⟩
  · simp [hnone] at hlength
  · exact ⟨requests, office, trace, hrun, hturns, hlength⟩

end Office
end RouteNetlink
