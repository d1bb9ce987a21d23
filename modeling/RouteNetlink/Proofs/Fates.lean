import RouteNetlink.Proofs.Entries
import RouteNetlink.Proofs.Reassembly

/-! The fate of every received record, and the way of messages from the receive loop through
the stream. -/
namespace RouteNetlink

namespace ReceiveBuffer

/-- Which records are taken does not depend on where the bytes came from. -/
theorem drain_namespace (buffer : ReceiveBuffer) (namespaceId? : Option Int32) :
    drain { buffer with namespaceId? } =
      (buffer.drain.1, { buffer.drain.2 with namespaceId? }) := by
  induction hn : buffer.size using Nat.strongRecOn generalizing buffer with
  | ind n ih =>
    cases h : buffer.next? with
    | none =>
      have h' : next? { buffer with namespaceId? } = none := by
        unfold next? at h ⊢
        dsimp only at h ⊢
        split at h <;> simp_all
      rw [drain_of_none h, drain_of_none h']
    | some taken =>
      obtain ⟨item, rest⟩ := taken
      have h' : next? { buffer with namespaceId? } = some (item, { rest with namespaceId? }) := by
        unfold next? at h ⊢
        dsimp only at h ⊢
        split at h <;> cases h <;> rfl
      rw [drain_of_some h, drain_of_some h', ih _ (hn ▸ size_of_next? h) rest rfl]

theorem drainReads_append (buffer : ReceiveBuffer) (reads later : List (List UInt8)) :
    buffer.drainReads (reads ++ later) =
      ((buffer.drainReads reads).1 ++ ((buffer.drainReads reads).2.drainReads later).1,
        ((buffer.drainReads reads).2.drainReads later).2) := by
  induction reads generalizing buffer with
  | nil => rfl
  | cons read reads ih =>
    rw [List.cons_append, drainReads, drainReads, ih]
    simp only [List.append_assoc]

theorem drainReads_append_singleton (buffer : ReceiveBuffer) (reads : List (List UInt8))
    (read : List UInt8) :
    buffer.drainReads (reads ++ [read]) =
      ((buffer.drainReads reads).1 ++ ((buffer.drainReads reads).2.extend read).drain.1,
        ((buffer.drainReads reads).2.extend read).drain.2) := by
  rw [drainReads_append, drainReads, drainReads, List.append_nil]

end ReceiveBuffer

namespace Office

/-- What is to become of a record, by what has happened so far: an answer to a request goes to
whoever awaits it, the failure of the awaited dump to the receive loop, all else to the
stream. -/
def Destined (port : UInt32) (past : List Event) (phase : Phase)
    (item : Except Fault (List UInt8)) (namespaceId? : Option Int32) : Fate → Prop
  | .dropped => heard item namespaceId? = none
  | .delivered reservation reply =>
    ∃ message, heard item namespaceId? = some message ∧ answer? port message = some reply ∧
      Ledger.Awaits (entries past) reservation ∧ reservation.sequence = reply.request.sequence
  | .failed turn code =>
    ∃ message reply, heard item namespaceId? = some message ∧
      answer? port message = some reply ∧
      (∀ r, Ledger.Awaits (entries past) r → r.sequence ≠ reply.request.sequence) ∧
      phase = .awaiting turn reply.request.sequence ∧ reply.code = code ∧ code ≠ 0
  | .pushed message =>
    heard item namespaceId? = some message ∧
      ∀ reply, answer? port message = some reply →
        (∀ r, Ledger.Awaits (entries past) r → r.sequence ≠ reply.request.sequence) ∧
        ∀ turn, phase = .awaiting turn reply.request.sequence → reply.code = 0

/-- The datagrams that the receive loop read. -/
def reads (trace : List Event) : List (List UInt8) :=
  trace.filterMap fun
    | .received bytes _ => some bytes
    | _ => none

/-- The records that it took off its buffer. -/
def taken (trace : List Event) : List (Except Fault (List UInt8)) :=
  trace.filterMap fun
    | .took _ item _ _ => some item
    | _ => none

def pushed (trace : List Event) : List Message :=
  trace.filterMap fun
    | .took _ _ _ (.pushed message) => some message
    | _ => none

def forwarded (trace : List Event) : List Message :=
  trace.filterMap fun
    | .forwarded message => some message
    | _ => none

def seen (trace : List Event) : List Message :=
  trace.filterMap fun
    | .read message => some message
    | _ => none

/-- The message that waits for room in the stream. -/
def parked (session : Session) : List Message :=
  match session.receiving with
  | .running loop => loop.parked?.toList
  | _ => []

@[simp] theorem reads_append (past events : List Event) :
    reads (past ++ events) = reads past ++ reads events := List.filterMap_append ..

@[simp] theorem taken_append (past events : List Event) :
    taken (past ++ events) = taken past ++ taken events := List.filterMap_append ..

@[simp] theorem pushed_append (past events : List Event) :
    pushed (past ++ events) = pushed past ++ pushed events := List.filterMap_append ..

@[simp] theorem forwarded_append (past events : List Event) :
    forwarded (past ++ events) = forwarded past ++ forwarded events := List.filterMap_append ..

@[simp] theorem seen_append (past events : List Event) :
    seen (past ++ events) = seen past ++ seen events := List.filterMap_append ..

variable {given : Message → Prop} {past events : List Event} {office next : Office}

theorem Booked.waiter?_iff (h : Booked past office) {sequence : UInt32} {r : Reservation} :
    office.session.ledger.waiter? sequence = some r ↔
      Ledger.Awaits (entries past) r ∧ r.sequence = sequence := h.history.tied.waiter?_iff

theorem Booked.waiter?_eq_none (h : Booked past office) {sequence : UInt32} :
    office.session.ledger.waiter? sequence = none ↔
      ∀ r, Ledger.Awaits (entries past) r → r.sequence ≠ sequence := by
  rw [Option.eq_none_iff_forall_ne_some]
  refine forall_congr' fun r => ?_
  rw [ne_eq, h.waiter?_iff, not_and]

/-- A number is awaited by one reservation at most. -/
theorem Booked.awaits_unique (h : Booked past office) {r other : Reservation}
    (hr : Ledger.Awaits (entries past) r) (ho : Ledger.Awaits (entries past) other)
    (hs : r.sequence = other.sequence) : r = other := by
  have hw := h.waiter?_iff.2 ⟨hr, rfl⟩
  rw [hs, h.waiter?_iff.2 ⟨ho, rfl⟩] at hw
  exact (Option.some.inj hw).symm

/-- No record has two fates. -/
theorem Destined.unique {port : UInt32} {phase : Phase} {item : Except Fault (List UInt8)}
    {namespaceId? : Option Int32} {fate other : Fate} (hb : Booked past office)
    (h : Destined port past phase item namespaceId? fate)
    (h' : Destined port past phase item namespaceId? other) : other = fate := by
  have hawaits := @hb.awaits_unique
  cases fate <;> cases other <;> grind [Destined]

/-- A record that was taken had the one fate that it was destined to. -/
def Settled (port : UInt32) (past : List Event) : Event → Prop
  | .took phase item namespaceId? fate =>
    ∀ other, Destined port past phase item namespaceId? other ↔ other = fate
  | _ => True

theorem Destined.settled {port : UInt32} {phase : Phase} {item : Except Fault (List UInt8)}
    {namespaceId? : Option Int32} {fate : Fate} (hb : Booked past office)
    (h : Destined port past phase item namespaceId? fate) :
    Settled port past (.took phase item namespaceId? fate) :=
  fun _ => ⟨h.unique hb, fun he => he ▸ h⟩

theorem settled_effect (hb : Booked past office) (h : Each (Settled office.session.port) past)
    (he : Effect given office events next) :
    Each (Settled office.session.port) (past ++ events) := by
  cases he with
  | drop _ _ hh => exact h.append_cons (Destined.settled hb hh) (by simp)
  | deliver _ _ hh ha hw =>
    obtain ⟨hwaits, hs⟩ := hb.waiter?_iff.1 hw
    exact h.append_cons (Destined.settled hb ⟨_, hh, ha, hwaits, hs⟩) (by simp)
  | retry _ _ hh ha hw hp hs hc =>
    refine h.append_cons (Destined.settled hb ?_) (by simp)
    exact ⟨_, _, hh, ha, hb.waiter?_eq_none.1 hw, hs ▸ hp, rfl, hc⟩
  | exhaust _ _ hh ha hw hp hs hc =>
    refine h.append_cons (Destined.settled hb ?_) (by simp [Settled])
    exact ⟨_, _, hh, ha, hb.waiter?_eq_none.1 hw, hs ▸ hp, rfl, hc⟩
  | push _ _ hh ha =>
    refine h.append_cons (Destined.settled hb ⟨hh, fun reply hr => ?_⟩) (by simp)
    obtain ⟨hw, hcode⟩ := ha reply hr
    exact ⟨hb.waiter?_eq_none.1 hw, fun turn hp => hcode turn _ hp rfl⟩
  | crash =>
    refine h.append_free fun event hm past => ?_
    cases event with
    | took => simp at hm
    | _ => trivial
  | _ => exact h.append_free (by simp [Settled])

/-- The records taken are those that the reads hold, from the first on; what is still buffered
is the rest. -/
structure Fed (past : List Event) (office : Office) : Prop where
  idle : office.session.receiving = .idle → reads past = [] ∧ taken past = []
  running : ∀ loop, office.session.receiving = .running loop →
    ReceiveBuffer.empty.drainReads (reads past) =
      (taken past ++ loop.buffer.drain.1, { loop.buffer.drain.2 with namespaceId? := none })
  ahead : taken past <+: (ReceiveBuffer.empty.drainReads (reads past)).1

theorem Fed.new (settings : Settings) (port : UInt32) (transport : Transport) :
    Fed [] (.new settings port transport) where
  idle := fun _ => ⟨rfl, rfl⟩
  running := by simp [Office.new, Session.new]
  ahead := List.nil_prefix

/-- Where neither reads nor records are new, and the loop keeps its buffer. -/
theorem Fed.still (h : Fed past office) (hr : reads events = []) (ht : taken events = [])
    (hi : next.session.receiving = .idle → office.session.receiving = .idle)
    (hl : ∀ loop, next.session.receiving = .running loop →
      ∃ before, office.session.receiving = .running before ∧ before.buffer = loop.buffer) :
    Fed (past ++ events) next := by
  have hreads : reads (past ++ events) = reads past := by simp [hr]
  have htaken : taken (past ++ events) = taken past := by simp [ht]
  refine ⟨fun hn => ?_, fun loop hn => ?_, ?_⟩
  · rw [hreads, htaken]
    exact h.idle (hi hn)
  · obtain ⟨before, hb, he⟩ := hl loop hn
    rw [hreads, htaken, h.running before hb, he]
  · rw [hreads, htaken]
    exact h.ahead

/-- A record that is taken is the next one of those that the reads hold. -/
theorem Fed.take (h : Fed past office) {loop : ReceiveLoop} {phase : Phase}
    {item : Except Fault (List UInt8)} {rest : ReceiveBuffer} {namespaceId? : Option Int32}
    {fate : Fate} (hl : office.session.receiving = .running loop)
    (hn : loop.buffer.next? = some (item, rest)) (hr : reads events = [])
    (ht : taken events = [])
    (hnext : ∀ after, next.session.receiving = .running after → after.buffer = rest)
    (hi : next.session.receiving ≠ .idle) :
    Fed (past ++ .took phase item namespaceId? fate :: events) next := by
  have hreads : reads (past ++ .took phase item namespaceId? fate :: events) = reads past := by
    rw [reads_append]
    exact (congrArg _ hr).trans (List.append_nil _)
  have htaken : taken (past ++ .took phase item namespaceId? fate :: events) =
      taken past ++ [item] := by
    rw [taken_append]
    exact congrArg (_ ++ item :: ·) ht
  have hd := h.running loop hl
  rw [ReceiveBuffer.drain_of_some hn] at hd
  refine ⟨fun hn => absurd hn hi, fun after ha => ?_, ?_⟩
  · rw [hreads, htaken, hd, hnext after ha]
    simp
  · rw [hreads, htaken, hd]
    exact ⟨rest.drain.1, by simp⟩

theorem Fed.receive (h : Fed past office) {loop : ReceiveLoop} {bytes : List UInt8}
    {namespaceId? : Option Int32} (hl : office.session.receiving = .running loop)
    (hn : loop.buffer.next? = none) (hnext : next.session.receiving = .running { loop with
      buffer := ⟨loop.buffer.bytes ++ bytes, namespaceId?⟩ }) :
    Fed (past ++ [.received bytes namespaceId?]) next := by
  have hreads : reads (past ++ [.received bytes namespaceId?]) = reads past ++ [bytes] :=
    reads_append ..
  have htaken : taken (past ++ [.received bytes namespaceId?]) = taken past :=
    (taken_append ..).trans (List.append_nil _)
  have hd := h.running loop hl
  rw [ReceiveBuffer.drain_of_none hn] at hd
  have hlater := ReceiveBuffer.drainReads_append_singleton .empty (reads past) bytes
  rw [hd] at hlater
  have hmark := ReceiveBuffer.drain_namespace ⟨loop.buffer.bytes ++ bytes, namespaceId?⟩ none
  have hnew : ReceiveBuffer.empty.drainReads (reads past ++ [bytes]) =
      (taken past ++ (ReceiveBuffer.drain ⟨loop.buffer.bytes ++ bytes, namespaceId?⟩).1,
        { (ReceiveBuffer.drain ⟨loop.buffer.bytes ++ bytes, namespaceId?⟩).2 with
          namespaceId? := none }) := by
    rw [hlater]
    simp only [ReceiveBuffer.extend, hmark, List.append_nil]
  refine ⟨by simp [hnext], fun after ha => ?_, ?_⟩
  · obtain rfl := Receiving.running.inj (hnext.symm.trans ha)
    rw [hreads, htaken, hnew]
  · rw [hreads, htaken, hnew]
    exact List.prefix_append _ _

theorem Fed.effect (h : Fed past office)
    (he : Effect given office events next) : Fed (past ++ events) next := by
  cases he with
  | start requests hl hi =>
    obtain ⟨hreads, htaken⟩ := h.idle hi
    have hdrain : ReceiveBuffer.empty.drain = ([], .empty) := ReceiveBuffer.drain_of_none rfl
    have hreads : reads (past ++ [.started requests]) = [] := by rw [reads_append, hreads]; rfl
    have htaken : taken (past ++ [.started requests]) = [] := by rw [taken_append, htaken]; rfl
    refine ⟨by simp, ?_, by rw [htaken]; exact List.nil_prefix⟩
    rintro _ ⟨⟩
    rw [hreads, htaken, hdrain]
    rfl
  | drop hl hn => exact h.take hl.running hn rfl rfl (by rintro _ ⟨⟩; rfl) (by simp)
  | deliver hl hn => exact h.take hl.running hn rfl rfl (by rintro _ ⟨⟩; rfl) (by simp)
  | retry hl hn => exact h.take hl.running hn rfl rfl (by rintro _ ⟨⟩; rfl) (by simp)
  | exhaust hl hn =>
    exact h.take hl.running hn rfl rfl (by simp [Session.stop]) (by simp [Session.stop])
  | push hl hn => exact h.take hl.running hn rfl rfl (by rintro _ ⟨⟩; rfl) (by simp)
  | receive hl hn => exact h.receive hl.running hn rfl
  | stop | founder => exact h.still rfl rfl (by simp [Session.stop]) (by simp [Session.stop])
  | ask hl => exact h.still rfl rfl (by simp) (by rintro _ ⟨⟩; exact ⟨_, hl, rfl⟩)
  | await hl => exact h.still rfl rfl (by simp) (by rintro _ ⟨⟩; exact ⟨_, hl, rfl⟩)
  | forward hl => exact h.still rfl rfl (by simp) (by rintro _ ⟨⟩; exact ⟨_, hl, rfl⟩)
  | close hc =>
    rw [close_of_open hc]
    exact h.still rfl rfl id fun loop hl => ⟨loop, hl, rfl⟩
  | @crash session held receipt =>
    obtain ⟨sequence, reservation?⟩ := receipt
    cases reservation? <;> exact h.still rfl rfl id fun loop hl => ⟨loop, hl, rfl⟩
  | _ => exact h.still rfl rfl id fun loop hl => ⟨loop, hl, rfl⟩

/-- Every message that was pushed goes on to the stream, in its turn. Only closing the session
can lose the one that is parked. -/
structure Passed (past : List Event) (office : Office) : Prop where
  whole : (∀ result, office.session.receiving ≠ .stopped result) ∨ .closed ∉ past →
    pushed past = forwarded past ++ parked office.session
  ahead : forwarded past <+: pushed past

theorem Passed.new (settings : Settings) (port : UInt32) (transport : Transport) :
    Passed [] (.new settings port transport) where
  whole := fun _ => rfl
  ahead := List.nil_prefix

theorem Passed.still (h : Passed past office) (hp : pushed events = [])
    (hf : forwarded events = []) (hs : parked next.session = parked office.session)
    (hr : (∀ result, next.session.receiving ≠ .stopped result) →
      ∀ result, office.session.receiving ≠ .stopped result) : Passed (past ++ events) next where
  whole := by
    intro ho
    rw [pushed_append, forwarded_append, hp, hf, hs, List.append_nil, List.append_nil]
    exact h.whole (ho.imp hr fun hc hm => hc (List.mem_append_left _ hm))
  ahead := by
    rw [pushed_append, forwarded_append, hp, hf, List.append_nil, List.append_nil]
    exact h.ahead

theorem parked_of_running {session : Session} {loop : ReceiveLoop}
    (hl : session.receiving = .running loop) : parked session = loop.parked?.toList := by
  simp only [parked, hl]

theorem Passed.of_running (h : Passed past office) {loop : ReceiveLoop}
    (hl : office.session.receiving = .running loop) :
    pushed past = forwarded past ++ loop.parked?.toList := by
  rw [h.whole (.inl (by simp [hl])), parked_of_running hl]

/-- Where the loop goes on and nothing is pushed or forwarded. -/
theorem Passed.go_on (h : Passed past office) {loop : ReceiveLoop}
    (hl : office.session.receiving = .running loop) (hp : pushed events = [])
    (hf : forwarded events = []) (hs : parked next.session = loop.parked?.toList) :
    Passed (past ++ events) next :=
  h.still hp hf (hs.trans (parked_of_running hl).symm) fun _ => by simp [hl]

theorem Passed.effect (h : Passed past office) (hb : Booked past office)
    (he : Effect given office events next) : Passed (past ++ events) next := by
  cases he with
  | start _ _ hi => exact h.still rfl rfl (by simp [parked, hi]) fun _ => by simp [hi]
  | ask hl | await hl => exact h.go_on hl rfl rfl rfl
  | drop hl | deliver hl | retry hl | receive hl => exact h.go_on hl.running rfl rfl rfl
  | founder hl hp => exact h.go_on hl rfl rfl (by rw [hp]; rfl)
  | exhaust hl => exact h.go_on hl.running rfl rfl (by rw [hl.unparked]; rfl)
  | push hl =>
    have hw := h.of_running hl.running
    rw [hl.unparked] at hw
    refine ⟨fun _ => ?_, ?_⟩
    · rw [pushed_append, forwarded_append, hw]
      simp [pushed, forwarded, parked]
    · rw [pushed_append, forwarded_append, hw]
      simp [forwarded]
  | forward hl hp =>
    have hw := h.of_running hl
    rw [hp] at hw
    refine ⟨fun _ => ?_, ?_⟩
    · rw [pushed_append, forwarded_append, hw]
      simp [pushed, forwarded, parked]
    · rw [pushed_append, forwarded_append, hw]
      simp [pushed, forwarded]
  | stop hl hp =>
    have hw := h.of_running hl
    refine ⟨fun ho => ?_, ?_⟩
    · have hopen : .closed ∉ past := by
        rcases ho with ho | ho
        · exact absurd rfl (ho _)
        · simpa using ho
      have hnone := hp.resolve_right fun hc => hopen (hb.closed_iff.1 hc)
      rw [hnone] at hw
      rw [pushed_append, forwarded_append, hw]
      simp [pushed, forwarded, parked, Session.stop]
    · rw [pushed_append, forwarded_append, hw]
      simp [pushed, forwarded]
  | close hc =>
    rw [close_of_open hc]
    exact h.still rfl rfl rfl id
  | @crash session held receipt =>
    obtain ⟨sequence, reservation?⟩ := receipt
    cases reservation? <;> exact h.still rfl rfl rfl id
  | _ => exact h.still rfl rfl rfl id

/-- What the reader saw and what is queued are the first messages that were forwarded, and all of
them while it reads. -/
structure Streamed (past : List Event) (office : Office) : Prop where
  ahead : seen past ++ office.session.stream.queue <+: forwarded past
  whole : office.session.stream.reader = .reading →
    seen past ++ office.session.stream.queue = forwarded past

theorem Streamed.new (settings : Settings) (port : UInt32) (transport : Transport) :
    Streamed [] (.new settings port transport) where
  ahead := List.nil_prefix
  whole := fun _ => rfl

theorem Streamed.still (h : Streamed past office) (hs : seen events = [])
    (hf : forwarded events = []) (hq : next.session.stream.queue = office.session.stream.queue)
    (hr : next.session.stream.reader = .reading → office.session.stream.reader = .reading) :
    Streamed (past ++ events) next where
  ahead := by
    rw [seen_append, forwarded_append, hs, hf, hq, List.append_nil, List.append_nil]
    exact h.ahead
  whole := by
    intro ho
    rw [seen_append, forwarded_append, hs, hf, hq, List.append_nil, List.append_nil]
    exact h.whole (hr ho)

/-- A message that is forwarded is queued, or lost to a reader that does not read. -/
theorem Streamed.forward (h : Streamed past office) {message : Message} {stream : Stream}
    (ho : office.session.stream.offer message = some stream)
    (hn : next.session.stream = stream) : Streamed (past ++ [.forwarded message]) next := by
  have hf : forwarded (past ++ [.forwarded message]) = forwarded past ++ [message] :=
    forwarded_append ..
  have hs : seen (past ++ [.forwarded message]) = seen past :=
    (seen_append ..).trans (List.append_nil _)
  rcases Stream.offer_eq_some_iff.1 ho with ⟨hr, rfl⟩ | ⟨hr, -, rfl⟩
  · refine ⟨?_, fun hr' => absurd (hn ▸ hr') hr⟩
    rw [hf, hs, hn]
    exact h.ahead.trans (List.prefix_append _ _)
  · have hwhole : seen (past ++ [.forwarded message]) ++ next.session.stream.queue =
        forwarded (past ++ [.forwarded message]) := by
      rw [hf, hs, hn, ← h.whole hr, List.append_assoc]
    exact ⟨hwhole ▸ List.prefix_rfl, fun _ => hwhole⟩

/-- A message that is read was the first of the queue. -/
theorem Streamed.read (h : Streamed past office) {message : Message} {stream : Stream}
    (ho : office.session.stream.next? = some (message, stream))
    (hn : next.session.stream = stream) : Streamed (past ++ [.read message]) next := by
  have hf : forwarded (past ++ [.read message]) = forwarded past :=
    (forwarded_append ..).trans (List.append_nil _)
  have hs : seen (past ++ [.read message]) = seen past ++ [message] := seen_append ..
  obtain ⟨hqueue, hstream⟩ := Stream.next?_eq_some_iff.1 ho
  have heq : seen (past ++ [.read message]) ++ next.session.stream.queue =
      seen past ++ office.session.stream.queue := by
    rw [hs, hn, hqueue, List.append_assoc]
    rfl
  refine ⟨?_, fun hr => ?_⟩
  · rw [heq, hf]
    exact h.ahead
  · rw [heq, hf]
    refine h.whole ?_
    rw [hn, hstream] at hr
    exact hr

theorem Streamed.effect (h : Streamed past office)
    (he : Effect given office events next) : Streamed (past ++ events) next := by
  cases he with
  | forward _ _ _ ho => exact h.forward ho rfl
  | read hn => exact h.read hn rfl
  | @leave session held stream hs =>
    rcases hs with rfl | rfl
    · unfold Stream.close
      split
      · exact h.still rfl rfl rfl nofun
      · exact h.still rfl rfl rfl id
    · refine ⟨?_, nofun⟩
      simp only [List.append_nil, Stream.drop]
      exact (List.prefix_append _ _).trans h.ahead
  | close hc =>
    rw [close_of_open hc]
    refine h.still rfl rfl ?_ ?_ <;> dsimp only <;> split <;> simp [Stream.shut]
  | @crash session held receipt =>
    obtain ⟨sequence, reservation?⟩ := receipt
    cases reservation? <;> exact h.still rfl rfl rfl id
  | _ => exact h.still rfl rfl rfl id

end Office
end RouteNetlink
