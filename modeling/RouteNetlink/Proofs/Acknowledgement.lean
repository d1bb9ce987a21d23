import RouteNetlink.Proofs.DumpOrder
import RouteNetlink.Proofs.Wire

/-! Acknowledgements in whole runs. Where the peer answers each request at most once, an answer
goes to whoever reserved the reply to that very request, and what a caller learns is what its
own request was answered with. -/
namespace RouteNetlink

/-- The absolute value, as far as it can be had. -/
theorem Fault.toInt_magnitude (code : Int32) :
    (magnitude code).toInt = min (code.toInt.natAbs : Int) Int32.maxValue.toInt := by
  have hlow := code.le_toInt
  have hhigh := code.toInt_lt
  have hmax : Int32.maxValue.toInt = 2147483647 := by decide
  rw [hmax]
  unfold magnitude
  split
  · rename_i h
    subst h
    decide
  · rename_i h
    have hne : code.toInt ≠ -2147483648 := fun he =>
      h (Int32.toInt_inj.1 (he.trans (by decide)))
    split
    · rename_i hneg
      have hneg : code.toInt < 0 := Int32.lt_iff_toInt_lt.1 hneg
      rw [Int32.toInt_neg, Int.bmod_eq_of_le (by omega) (by omega)]
      omega
    · rename_i hpos
      have hpos : ¬code.toInt < 0 := fun he => hpos (Int32.lt_iff_toInt_lt.2 he)
      omega

/-- A header as it is on the wire. -/
def Header.echo (header : Header) : Header := { header with namespaceId? := none }

namespace Reservation

variable {ledger : Ledger} {now : Nat} {deadline? : Option Nat} {r : Reservation}

theorem standing_of_outcome? {reply : Reply}
    (h : r.outcome? ledger now deadline? = some (.ok reply)) :
    ledger.standing r = .answered reply := by
  unfold outcome? at h
  split at h
  · cases h
    assumption
  · cases h
  · split at h
    · split at h <;> cases h
    · cases h

theorem isKernel_of_outcome? {fault : Fault}
    (h : r.outcome? ledger now deadline? = some (.error fault)) : fault.isKernel = false := by
  unfold outcome? at h
  split at h
  · cases h
  · cases h
    rfl
  · split at h
    · split at h <;> cases h
      rfl
    · cases h

end Reservation

namespace TaskResult

theorem ofAcknowledgement_eq_acknowledged {outcome : Except Fault Reply} :
    ofAcknowledgement outcome = acknowledged ↔ ∃ reply, outcome = .ok reply ∧ reply.code = 0 := by
  cases outcome with
  | error fault => simp [ofAcknowledgement, Except.bind]
  | ok reply =>
    by_cases hc : reply.code = 0 <;>
      simp [ofAcknowledgement, Except.bind, Reply.result, Reply.isAck, hc]

theorem ofAcknowledgement_eq_failed {outcome : Except Fault Reply} {fault : Fault} :
    ofAcknowledgement outcome = failed fault ↔ outcome = .error fault ∨
      ∃ reply, outcome = .ok reply ∧ reply.code ≠ 0 ∧ Fault.ofCode reply.code = fault := by
  cases outcome with
  | error fault => simp [ofAcknowledgement, Except.bind]
  | ok reply =>
    by_cases hc : reply.code = 0 <;>
      simp [ofAcknowledgement, Except.bind, Reply.result, Reply.isAck, hc]

end TaskResult

namespace Office

/-- The answer to a request of ours that the receive loop took. -/
def Event.answer? (port : UInt32) : Event → Option Reply
  | .took _ item namespaceId? _ => answered port item namespaceId?
  | _ => none

def answers (port : UInt32) (trace : List Event) : List Reply :=
  trace.filterMap (Event.answer? port)

/-- A peer that answers only what was asked, each request at most once and by its header. That
a request was framed is all it needs: no byte of it can be accepted before. -/
def Faithful (port : UInt32) (past : List Event) (event : Event) : Prop :=
  ∀ reply ∈ event.answer? port,
    (∃ request ∈ framed past, reply.request = request.2.header.echo) ∧
      ∀ earlier ∈ answers port past, earlier.request ≠ reply.request

instance (port : UInt32) (past : List Event) (event : Event) :
    Decidable (Faithful port past event) :=
  inferInstanceAs (Decidable (∀ reply ∈ event.answer? port, _ ∧ _))

/-- The reply is to the request for which the reservation was made. -/
def Belongs (past : List Event) (r : Reservation) (reply : Reply) : Prop :=
  ∃ request, .reserved r request ∈ past ∧ reply.request = request.echo

/-- An answer goes to the one it belongs to, as long as the session is open. -/
structure Rightful (port : UInt32) (past : List Event) (item : Except Fault (List UInt8))
    (namespaceId? : Option Int32) (fate : Fate) : Prop where
  kept : ∀ r reply, answered port item namespaceId? = some reply → Belongs past r reply →
    .closed ∉ past → .released r ∉ past → fate = .delivered r reply
  /-- Where its holder has dropped the reservation, the answer is for the stream. -/
  dropped : ∀ r reply, answered port item namespaceId? = some reply → Belongs past r reply →
    .released r ∈ past →
      ∃ message, heard item namespaceId? = some message ∧ fate = .pushed message
  /-- Nobody gets the answer to somebody else's request. -/
  own : ∀ r reply, fate = .delivered r reply →
    answered port item namespaceId? = some reply ∧ Belongs past r reply ∧
      ∀ other, Belongs past other reply → other = r

def Dispatched (port : UInt32) (past : List Event) : Event → Prop
  | .took _ item namespaceId? fate => Rightful port past item namespaceId? fate
  | _ => True

/-- The reservation got the reply to its own request. -/
def Received (past : List Event) (r : Reservation) (reply : Reply) : Prop :=
  (∃ phase item namespaceId?, .took phase item namespaceId? (.delivered r reply) ∈ past) ∧
    Belongs past r reply

/-- What the sender of a request learns of it is what the request was answered with. -/
def Concluded (past : List Event) : Event → Prop
  | .finished (.acknowledging r _) result =>
    (result = .acknowledged → ∃ reply, Received past r reply ∧ reply.code = 0) ∧
      ∀ code text, result = .failed (.kernel code text) →
        ∃ reply, Received past r reply ∧ reply.code ≠ 0 ∧
          code.toInt = min (reply.code.toInt.natAbs : Int) Int32.maxValue.toInt
  | .refused fault | .failed fault => fault.isKernel = false
  | _ => True

variable {port : UInt32} {past events : List Event} {office next : Office}

theorem Belongs.append {r : Reservation} {reply : Reply} (h : Belongs past r reply)
    (events : List Event) : Belongs (past ++ events) r reply := by
  obtain ⟨request, hr, he⟩ := h
  exact ⟨request, List.mem_append_left _ hr, he⟩

/-- A reservation has the number of the request that its reply echoes. -/
theorem Numbered.sequence_of_belongs (h : Numbered past office) {r : Reservation}
    {reply : Reply} (hb : Belongs past r reply) : r.sequence = reply.request.sequence := by
  obtain ⟨request, hr, he⟩ := hb
  obtain ⟨-, -, -, hs⟩ := h.reserved r request hr
  rw [hs, he]
  rfl

theorem Numbered.belongs_unique (h : Numbered past office) {r other : Reservation}
    {reply : Reply} (hb : Belongs past r reply) (ho : Belongs past other reply) : other = r := by
  have hs := (h.sequence_of_belongs ho).trans (h.sequence_of_belongs hb).symm
  obtain ⟨request, hr, -⟩ := hb
  obtain ⟨request', hr', -⟩ := ho
  exact (h.reserved_unique _ _ _ _ hr' hr hs).1

/-- A delivered reply is one that was taken, and it belongs to its reservation. -/
theorem received_of_entry (h : Each (Dispatched port) past) {r : Reservation} {reply : Reply}
    (hd : .delivered r reply ∈ entries past) :
    Received past r reply ∧ reply ∈ answers port past := by
  obtain ⟨phase, item, namespaceId?, hm⟩ := delivered_mem_entries.1 hd
  have hreply : answered port item namespaceId? = some reply ∧ Belongs past r reply := by
    obtain ⟨before, later, rfl⟩ := List.append_of_mem hm
    obtain ⟨ha, hbelongs, -⟩ := (h before _ later rfl).own r reply rfl
    exact ⟨ha, hbelongs.append _⟩
  exact ⟨⟨⟨phase, item, namespaceId?, hm⟩, hreply.2⟩, List.mem_filterMap.2 ⟨_, hm, hreply.1⟩⟩

section Take

variable {loop : ReceiveLoop} {item : Except Fault (List UInt8)}
  {namespaceId? : Option Int32} {fate : Fate}

/-- Until it is dropped, a reservation awaits the reply that belongs to it. -/
theorem awaits_of_belongs (hm : Marshalled past office) (hl : Ready office.session loop)
    (hf : Faithful port past (.took loop.phase item namespaceId? fate))
    (h : Each (Dispatched port) past) {r : Reservation} {reply : Reply}
    (ha : answered port item namespaceId? = some reply) (hb : Belongs past r reply)
    (hopen : .closed ∉ past) (hkept : .released r ∉ past) :
    Ledger.Awaits (entries past) r := by
  obtain ⟨request, hr, he⟩ := hb
  refine ⟨registered_mem_entries.2 ⟨request, hr⟩, mt released_mem_entries.1 hkept, ?_, ?_⟩
  · intro earlier hd
    -- an earlier reply would be a second one to the same request
    obtain ⟨⟨-, request', hr', he'⟩, hanswer⟩ := received_of_entry h hd
    obtain ⟨-, rfl⟩ := hm.numbered.reserved_unique _ _ _ _ hr hr' rfl
    exact (hf reply ha).2 earlier hanswer (he'.trans he.symm)
  · rw [cancelled_mem_entries]
    rintro (hclosed | ⟨result, hstopped⟩)
    · exact hopen hclosed
    · have hstop := hm.booked.stopped result hstopped
      rw [hl.running] at hstop
      cases hstop

/-- A reply that belongs to a dropped reservation is awaited by nobody else. -/
theorem unawaited_of_released (h : Numbered past office) {r : Reservation} {reply : Reply}
    (hb : Belongs past r reply) (hreleased : .released r ∈ past) :
    ∀ other, Ledger.Awaits (entries past) other → other.sequence ≠ reply.request.sequence := by
  intro other hawaits hs
  have hown := h.sequence_of_belongs hb
  obtain ⟨request, hr, -⟩ := hb
  obtain ⟨request', hr'⟩ := registered_mem_entries.1 hawaits.registered
  obtain ⟨rfl, -⟩ := h.reserved_unique _ _ _ _ hr' hr (hs.trans hown.symm)
  exact hawaits.kept (released_mem_entries.2 hreleased)

/-- The number that a receive loop awaits is a dump's, so no reservation has it. -/
theorem not_awaiting_of_belongs (hstaged : Staged past office) (hn : Numbered past office)
    (hl : Ready office.session loop) {r : Reservation} {reply : Reply}
    (hb : Belongs past r reply) (turn : DumpTurn) :
    loop.phase ≠ .awaiting turn reply.request.sequence := by
  intro hp
  obtain ⟨requests, hstarts⟩ := hstaged.begun (by simp [hl.running])
  have hstands := hstaged.running loop requests hl.running hstarts
  rw [hp] at hstands
  generalize hsequence : reply.request.sequence = sequence at hstands
  cases hstands with
  | awaiting hlatest =>
    have hown := hn.sequence_of_belongs hb
    obtain ⟨request, hr, -⟩ := hb
    exact hn.undumped hlatest.mem hr (hown.trans hsequence)

/-- Whoever awaits a reply under its number reserved it for the request that it echoes. -/
theorem belongs_of_awaits (h : Numbered past office) {r : Reservation} {reply : Reply}
    (hechoes : ∃ request ∈ framed past, reply.request = request.2.header.echo)
    (hawaits : Ledger.Awaits (entries past) r) (hs : r.sequence = reply.request.sequence) :
    Belongs past r reply := by
  obtain ⟨⟨purpose, asked⟩, hasked, he⟩ := hechoes
  obtain ⟨request, hr⟩ := registered_mem_entries.1 hawaits.registered
  obtain ⟨own, hown, rfl, hsequence⟩ := h.reserved r request hr
  have hsame : asked.header.sequence = own.header.sequence := by
    rw [← hsequence, hs, he]
    rfl
  obtain ⟨-, rfl⟩ := h.framed_unique (mem_framed.1 hasked) hown hsame
  exact ⟨_, hr, he⟩

theorem rightful_take (hm : Marshalled past office) (hl : Ready office.session loop)
    (hsettled : Settled office.session.port past (.took loop.phase item namespaceId? fate))
    (hf : Faithful office.session.port past (.took loop.phase item namespaceId? fate))
    (h : Each (Dispatched office.session.port) past) :
    Rightful office.session.port past item namespaceId? fate where
  kept := by
    intro r reply ha hb hopen hkept
    have hawaits := awaits_of_belongs hm hl hf h ha hb hopen hkept
    obtain ⟨message, hh, hreply⟩ := Option.bind_eq_some_iff.1 ha
    exact ((hsettled (.delivered r reply)).1
      ⟨message, hh, hreply, hawaits, hm.numbered.sequence_of_belongs hb⟩).symm
  dropped := by
    intro r reply ha hb hreleased
    obtain ⟨message, hh, hreply⟩ := Option.bind_eq_some_iff.1 ha
    refine ⟨message, hh, ((hsettled (.pushed message)).1 ⟨hh, fun other ho => ?_⟩).symm⟩
    obtain rfl : reply = other := Option.some.inj (hreply.symm.trans ho)
    exact ⟨unawaited_of_released hm.numbered hb hreleased, fun turn hp =>
      absurd hp (not_awaiting_of_belongs hm.staged hm.numbered hl hb turn)⟩
  own := by
    rintro r reply rfl
    obtain ⟨message, hh, hreply, hawaits, hs⟩ := (hsettled _).2 rfl
    have ha : answered office.session.port item namespaceId? = some reply := by
      simp [answered, hh, hreply]
    have hbelongs := belongs_of_awaits hm.numbered (hf reply ha).1 hawaits hs
    exact ⟨ha, hbelongs, fun other ho => hm.numbered.belongs_unique hbelongs ho⟩

end Take

theorem dispatched_effect {given : Message → Prop} (hm : Marshalled past office)
    (hf : Each (Faithful office.session.port) (past ++ events))
    (h : Each (Dispatched office.session.port) past)
    (he : Effect given office events next) :
    Each (Dispatched office.session.port) (past ++ events) := by
  have hsettled := settled_effect hm.booked hm.settled he
  refine h.append fun earlier event later heq => ?_
  cases event with
  | took phase item namespaceId? fate =>
    obtain ⟨rfl, loop, hl, rfl⟩ := he.ready_of_took heq
    have hwhole : past ++ events = past ++ .took loop.phase item namespaceId? fate :: later := by
      simp [heq]
    rw [List.append_nil]
    exact rightful_take hm hl (hsettled past _ later hwhole) (hf past _ later hwhole) h
  | _ => trivial

/-- A wait that is over with a reply ends with that of the own request. -/
theorem received_of_outcome? (hb : Booked past office) (h : Each (Dispatched port) past)
    {r : Reservation} {now : Nat} {deadline? : Option Nat} {reply : Reply}
    (hr : r ∈ office.held)
    (ho : r.outcome? office.session.ledger now deadline? = some (.ok reply)) :
    Received past r reply := by
  have hd := (hb.answered_iff hr reply).1 (Reservation.standing_of_outcome? ho)
  exact (received_of_entry h hd).1

theorem concluded_finish (hb : Booked past office) (h : Each (Dispatched port) past)
    {task : Task} {now : Nat} {result : TaskResult} {r : Reservation}
    (ht : task.reservation? = some r) (hf : task.result? office.session.ledger now = some result)
    (hr : r ∈ office.held) : Concluded past (.finished task result) := by
  cases task with
  | acknowledging own deadline =>
    obtain rfl := Option.some.inj ht
    obtain ⟨outcome, ho, rfl⟩ := Option.map_eq_some_iff.1 hf
    constructor
    · intro hresult
      obtain ⟨reply, rfl, hc⟩ := TaskResult.ofAcknowledgement_eq_acknowledged.1 hresult
      exact ⟨reply, received_of_outcome? hb h hr ho, hc⟩
    · intro code text hresult
      rcases TaskResult.ofAcknowledgement_eq_failed.1 hresult with
        rfl | ⟨reply, rfl, hc, hcode⟩
      · cases Reservation.isKernel_of_outcome? ho
      · obtain ⟨rfl, -⟩ := Fault.kernel.inj hcode
        exact ⟨reply, received_of_outcome? hb h hr ho, hc, Fault.toInt_magnitude _⟩
  | _ => trivial

theorem concluded_effect {given : Message → Prop} (hb : Booked past office)
    (hd : Each (Dispatched port) past) (h : Each Concluded past)
    (he : Effect given office events next) : Each Concluded (past ++ events) := by
  cases he with
  | finish ht hf hr => exact h.append_cons (concluded_finish hb hd ht hf hr) (by simp)
  | refuse _ hk => exact h.append_cons hk (by simp)
  | unreserve _ _ hk =>
    exact h.append_free (by simp [Concluded, hk])
  | founder _ _ _ _ hk => exact h.append_free (by simp [Concluded, hk])
  | @crash session held receipt left fault _ _ hk =>
    obtain ⟨sequence, reservation?⟩ := receipt
    cases reservation? <;> exact h.append_free (by simp [Concluded, hk])
  | _ => exact h.append_free (by simp [Concluded])

/-- What holds of requests and their acknowledgements after whatever was done. -/
structure Correlated (accepted : List UInt8) (port : UInt32) (trace : List Event)
    (office : Office) : Prop where
  accepted : office.session.transport.accepted = accepted ++ written trace
  /-- No byte of a request is accepted before the reply to it is reserved. -/
  covered : Each Covered trace
  /-- The reply goes to the holder of that reservation and to nobody else. -/
  dispatched : Each (Dispatched port) trace
  /-- Its holder sees the reply that was taken for it, and until then none. -/
  answered_iff : ∀ r ∈ office.held, ∀ reply,
    office.session.ledger.standing r = .answered reply ↔
      ∃ phase item namespaceId?, .took phase item namespaceId? (.delivered r reply) ∈ trace
  /-- Callers learn what their own requests were answered with. -/
  concluded : Each Concluded trace

variable {settings : Settings} {transport : Transport} {actions : List Action}
  {trace : List Event}

/-- An acknowledgement always belongs to the request that it is reported for. -/
theorem run_correlated (hg : ∀ action ∈ actions, action.Given Unnumbered)
    (hfew : framings trace + 1 < UInt32.size) (hpeer : Each (Faithful port) trace)
    (h : (Office.new settings port transport).run actions = some (office, trace)) :
    Correlated transport.accepted port trace office := by
  obtain ⟨hmarshalled, hwired, hlaws⟩ := keep_few
    (fun past office => Marshalled past office ∧ Wired transport.accepted past office ∧
      (Each (Faithful office.session.port) past →
        Each (Dispatched office.session.port) past ∧ Each Concluded past))
    ⟨.new .., .new .., fun _ => ⟨.nil, .nil⟩⟩
    (by
      rintro past office events next ⟨hm, hw, hlaws⟩ hfew he
      refine ⟨hm.effect hfew he, hw.effect he, fun hf => ?_⟩
      rw [he.port] at hf ⊢
      obtain ⟨hd, hc⟩ := hlaws hf.of_append
      exact ⟨dispatched_effect hm hf hd he, concluded_effect hm.booked hd hc he⟩) hg hfew h
  obtain ⟨rfl, -⟩ := setup_run hg h
  obtain ⟨hd, hc⟩ := hlaws hpeer
  have hanswered : ∀ r ∈ office.held, ∀ reply,
      office.session.ledger.standing r = .answered reply ↔
        ∃ phase item namespaceId?, .took phase item namespaceId? (.delivered r reply) ∈ trace :=
    fun r hr reply => (hmarshalled.booked.answered_iff hr reply).trans delivered_mem_entries
  exact ⟨hwired.accepted, hwired.covered, hd, hanswered, hc⟩

/-- Two requests with an answer each, of which the second was not waited for. -/
def answeredRequests : List Action :=
  [.listen [.noop], .reserve (.dump .getLink .packet), .write,
    .reserve (.dump .getLink .packet), .write, .drop ⟨2, 1⟩,
    .arrive (.datagram
      ([36, 0, 0, 0, 2, 0, 0, 0, 2, 0, 0, 0, 0, 0, 0, 0, 0, 0, 0, 0] ++
        [17, 0, 0, 0, 18, 0, 5, 3, 2, 0, 0, 0, 7, 0, 0, 0] ++
        [36, 0, 0, 0, 2, 0, 0, 0, 1, 0, 0, 0, 0, 0, 0, 0, 255, 255, 255, 255] ++
        [17, 0, 0, 0, 18, 0, 5, 3, 1, 0, 0, 0, 7, 0, 0, 0]) none),
    .tick, .tick, .tick, .tick, .finish (.acknowledging ⟨1, 0⟩ 100) 5]

theorem run_correlated_answeredRequests :
    ∃ office trace,
      (Office.new .standard 7 (.new none)).run answeredRequests = some (office, trace) ∧
        Correlated [] 7 trace office ∧ (answers 7 trace).length = 2 := by
  have h : ((Office.new .standard 7 (.new none)).run answeredRequests).map (fun last =>
      (decide (Each (Faithful 7) last.2), framings last.2, (answers 7 last.2).length)) =
        some (true, 2, 2) := by decide +kernel
  obtain ⟨⟨office, trace⟩, hrun, hfacts⟩ := Option.map_eq_some_iff.1 h
  obtain ⟨hpeer, hcounts⟩ := Prod.mk.inj hfacts
  obtain ⟨hframings, hanswers⟩ := Prod.mk.inj hcounts
  have hgiven : ∀ action ∈ answeredRequests, action.Given Unnumbered := by
    simp [answeredRequests, Action.Given]
  have hfew : framings trace + 1 < UInt32.size := by
    rw [hframings]
    decide
  exact ⟨office, trace, hrun, run_correlated hgiven hfew (of_decide_eq_true hpeer) hrun, hanswers⟩

end Office
end RouteNetlink
