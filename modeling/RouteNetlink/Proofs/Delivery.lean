import RouteNetlink.Proofs.Fates
import RouteNetlink.Proofs.Pace

/-! Received records in whole runs: each has one fate, and what is for the stream goes through
it once and in order, at whatever pace it is read. -/
namespace RouteNetlink
namespace Office

/-- What holds of received records after whatever was done. -/
structure Orderly (port : UInt32) (trace : List Event) (office : Office) : Prop where
  settled : Each (Settled port) trace
  /-- A holder sees the reply that was delivered to it, and until then none. -/
  answered_iff : ∀ r ∈ office.held, ∀ reply,
    office.session.ledger.standing r = .answered reply ↔
      .delivered r reply ∈ entries trace
  taken_ahead : taken trace <+: (ReceiveBuffer.empty.drainReads (reads trace)).1
  /-- A running loop has taken all but those still buffered. -/
  taken_whole : ∀ loop, office.session.receiving = .running loop →
    (ReceiveBuffer.empty.drainReads (reads trace)).1 = taken trace ++ loop.buffer.drain.1
  /-- What is for the stream goes into it once and in order; one message may still wait. -/
  pushed_whole : (∀ result, office.session.receiving ≠ .stopped result) ∨ .closed ∉ trace →
    pushed trace = forwarded trace ++ parked office.session
  forwarded_ahead : forwarded trace <+: pushed trace
  seen_ahead : seen trace ++ office.session.stream.queue <+: forwarded trace
  seen_whole : office.session.stream.reader = .reading →
    seen trace ++ office.session.stream.queue = forwarded trace
  /-- The loop waits only for a reader that is behind by the depth of the stream. -/
  waits : ∀ loop, office.session.receiving = .running loop → loop.parked? ≠ none →
    office.step .tick = none → office.session.stream.reader = .reading ∧
      office.session.stream.depth ≤ office.session.stream.queue.length

variable {settings : Settings} {port : UInt32} {transport : Transport} {office : Office}
  {actions : List Action} {trace : List Event}

theorem waits_tick {loop : ReceiveLoop} (hl : office.session.receiving = .running loop)
    (hp : loop.parked? ≠ none) (hn : office.step .tick = none) :
    office.session.stream.reader = .reading ∧
      office.session.stream.depth ≤ office.session.stream.queue.length := by
  obtain ⟨message, hp⟩ := Option.ne_none_iff_exists'.1 hp
  simp only [step, hl, Option.map_eq_none_iff, Session.advance, hp, Session.forward] at hn
  split at hn
  · cases hn
  · exact Stream.offer_eq_none_iff.1 (Option.map_eq_none_iff.1 hn)

theorem forwarded_filter (trace : List Event) :
    forwarded (trace.filter (!·.isReaders)) = forwarded trace := by
  induction trace with
  | nil => rfl
  | cons event trace ih =>
    cases event with
    | forwarded message => exact congrArg (message :: ·) ih
    | _ => exact ih

theorem pushed_filter (trace : List Event) :
    pushed (trace.filter (!·.isReaders)) = pushed trace := by
  induction trace with
  | nil => rfl
  | cons event trace ih =>
    cases event with
    | took phase item namespaceId? fate =>
      cases fate with
      | pushed message => exact congrArg (message :: ·) ih
      | _ => exact ih
    | _ => exact ih

theorem new_muted (settings : Settings) (depth : Nat) (port : UInt32) (transport : Transport) :
    (Office.new (settings.withChannelDepth depth) port transport).muted =
      (Office.new settings port transport).muted := rfl

/-- Every record that is received has one fate, and none of those for the stream is lost,
doubled or out of turn. The depth of the stream and the pace of its reader make no
difference. -/
theorem run_orderly
    (h : (Office.new settings port transport).run actions = some (office, trace)) :
    Orderly port trace office ∧
      ∀ depth actions' office' trace',
        (Office.new (settings.withChannelDepth depth) port transport).run actions' =
          some (office', trace') →
        actions'.filter (!·.isReaders) = actions.filter (!·.isReaders) →
        trace'.filter (!·.isReaders) = trace.filter (!·.isReaders) ∧
          pushed trace' = pushed trace ∧ forwarded trace' = forwarded trace ∧
          office'.muted = office.muted := by
  have hgiven : ∀ action ∈ actions, action.Given fun _ => True :=
    fun action _ => given_true action
  have hbooked := keep_run Booked (.new ..) (fun _ _ _ _ hb he => hb.effect he) hgiven h
  have hsettled := keep_run
    (fun past office => Booked past office ∧ office.session.port = port ∧
      Each (Settled port) past) ⟨.new .., rfl, .nil⟩
    (by
      rintro past office events next ⟨hb, rfl, hs⟩ he
      exact ⟨hb.effect he, he.port, settled_effect hb hs he⟩) hgiven h
  have hfed := keep_run Fed (.new ..) (fun _ _ _ _ hf he => hf.effect he) hgiven h
  have hpassed := keep_run (fun past office => Booked past office ∧ Passed past office)
    ⟨.new .., .new ..⟩ (fun _ _ _ _ hp he => ⟨hp.1.effect he, hp.2.effect hp.1 he⟩) hgiven h
  have hstreamed := keep_run Streamed (.new ..) (fun _ _ _ _ hs he => hs.effect he) hgiven h
  constructor
  · exact
      { settled := hsettled.2.2
        answered_iff := fun r hr reply => hbooked.answered_iff hr reply
        taken_ahead := hfed.ahead
        taken_whole := fun loop hl => congrArg Prod.fst (hfed.running loop hl)
        pushed_whole := hpassed.2.whole
        forwarded_ahead := hpassed.2.ahead
        seen_ahead := hstreamed.ahead
        seen_whole := hstreamed.whole
        waits := fun loop hl hp hn => waits_tick hl hp hn }
  · intro depth actions' office' trace' h' hactions
    have hmuted := run_muted (Steady.new ..) h
    have hmuted' := run_muted (Steady.new ..) h'
    rw [hactions, new_muted, hmuted] at hmuted'
    obtain ⟨hoffice, htrace⟩ := Prod.mk.inj (Option.some.inj hmuted')
    refine ⟨htrace.symm, ?_, ?_, hoffice.symm⟩
    · rw [← pushed_filter trace', ← htrace, pushed_filter]
    · rw [← forwarded_filter trace', ← htrace, forwarded_filter]

/-- The end of a dump and an answer to somebody else behind it, in one datagram. -/
def dumpAndBehind : List Action :=
  [.listen [⟨.getLink, .packet⟩], .tick, .tick,
    .arrive (.datagram
      ([16, 0, 0, 0, 3, 0, 0, 0, 1, 0, 0, 0, 7, 0, 0, 0] ++
        [36, 0, 0, 0, 2, 0, 0, 0, 1, 0, 0, 0, 8, 0, 0, 0, 255, 255, 255, 255] ++
        [16, 0, 0, 0, 18, 0, 5, 0, 1, 0, 0, 0, 8, 0, 0, 0]) none),
    .tick, .tick, .tick, .tick, .tick, .read, .read]

theorem run_orderly_dumpAndBehind :
    ∃ office trace,
      (Office.new .standard 7 (.new none)).run dumpAndBehind = some (office, trace) ∧
        Orderly 7 trace office ∧ (seen trace).length = 2 := by
  have h : ((Office.new .standard 7 (.new none)).run dumpAndBehind).isSome := by decide +kernel
  have hrun := (Option.some_get h).symm
  exact ⟨_, _, hrun, (run_orderly hrun).1, by decide +kernel⟩

end Office
end RouteNetlink
