import Mathlib.Data.List.Induction
import RouteNetlink.Proofs.Delivery
import RouteNetlink.Proofs.Origins

/-! What a corrupt length costs. It takes with it what is buffered when it is met, and nothing
else: records in front of it are taken as ever, and the next read starts afresh. -/
namespace RouteNetlink

namespace ReceiveBuffer

/-- The start of a record the rest of which is still to come. -/
def Unfinished (tail : List UInt8) : Prop :=
  tail.length < Header.size ∨ tail.length < align4 (declared tail)

/-- The records that stand in reads, by their bytes alone, and what the last of the reads leave
waiting. Where a length ends inside its header, all that was read with it is given up, and
the records of the next reads follow. -/
inductive Scanned : (reads : List (List UInt8)) → (items : List (Except Fault (List UInt8))) →
    (tail : List UInt8) → Prop where
  | sound {reads : List (List UInt8)} {pieces : List Piece} {tail : List UInt8}
      (hp : ∀ piece ∈ pieces, piece.Exact) (hr : reads.flatten = joined pieces ++ tail)
      (ht : Unfinished tail) : Scanned reads (pieces.map fun piece => .ok piece.record) tail
  | corrupt {before after : List (List UInt8)} {read rest tail : List UInt8}
      {pieces : List Piece} {items : List (Except Fault (List UInt8))}
      (hb : WellFramed before.flatten) (hp : ∀ piece ∈ pieces, piece.Exact)
      (hr : before.flatten ++ read = joined pieces ++ rest) (hl : Header.size ≤ rest.length)
      (hd : declared rest < Header.size) (h : Scanned after items tail) :
      Scanned (before ++ read :: after)
        (pieces.map (fun piece => .ok piece.record) ++
          .error (.invalidMessage (.lengthBelowHeader (declared rest) rest.length)) :: items)
        tail

variable {reads : List (List UInt8)} {items : List (Except Fault (List UInt8))}
  {stream rest tail : List UInt8} {pieces : List Piece}

theorem unfinished_iff : Unfinished tail ↔ front tail = .partialRecord := by
  have hs : Header.size = 16 := rfl
  have hle := le_align4 (declared tail)
  have hlt := align4_lt (declared tail)
  have hmod := align4_mod (declared tail)
  grind [Unfinished, front, reaches_iff]

/-- In the start of a record, no other starts. -/
theorem Unfinished.wellFramed (h : Unfinished tail) : WellFramed tail := by
  have hs : Header.size = 16 := rfl
  have hle := le_align4 (declared tail)
  have hlt := align4_lt (declared tail)
  have hmod := align4_mod (declared tail)
  intro rest hb hr
  cases hb with
  | front =>
    rcases h with h | h
    · omega
    · omega
  | behind hl ha =>
    rcases h with h | h
    · omega
    · omega

theorem exists_next?_of_drain {buffer : ReceiveBuffer} {item : Except Fault (List UInt8)}
    {later : List (Except Fault (List UInt8))} (h : buffer.drain.1 = item :: later) :
    ∃ rest, buffer.next? = some (item, rest) := by
  cases hn : buffer.next? with
  | none =>
    rw [drain_of_none hn] at h
    cases h
  | some taken =>
    rw [drain_of_some hn] at h
    cases h
    exact ⟨taken.2, rfl⟩

theorem next?_of_malformed {buffer : ReceiveBuffer} {length : Nat}
    (h : front buffer.bytes = .malformed length) :
    buffer.next? =
      some (.error (.invalidMessage (.lengthBelowHeader length buffer.bytes.length)),
        buffer.clear) := by
  simp only [next?, h]
  rfl

/-- A length that ends inside its header takes all that is buffered with it. -/
theorem drain_of_corrupt (hl : Header.size ≤ rest.length) (hd : declared rest < Header.size)
    (id : Option Int32) :
    ReceiveBuffer.drain ⟨rest, id⟩ =
      ([.error (.invalidMessage (.lengthBelowHeader (declared rest) rest.length))],
        ⟨[], id⟩) := by
  have hf : front rest = .malformed (declared rest) := front_eq_malformed_iff.2 ⟨hl, rfl, hd⟩
  have hn : next? ⟨rest, id⟩ = _ := next?_of_malformed hf
  have hclear : (clear ⟨rest, id⟩).drain = ([], ⟨[], id⟩) := drain_of_none rfl
  rw [drain_of_some hn, hclear]

/-- Reads in which nothing is corrupt, and one more, are taken as if they came at once. -/
theorem drainReads_concat {before : List (List UInt8)} (h : WellFramed before.flatten)
    (read : List UInt8) (id : Option Int32) :
    drainReads ⟨[], id⟩ (before ++ [read]) = drain ⟨before.flatten ++ read, id⟩ := by
  have hbefore := drainReads_eq_drain ⟨[], id⟩ before rfl h
  obtain ⟨pieces, tail, hd, -⟩ := exists_pieces (extend ⟨[], id⟩ before.flatten) h
  have hok : ∀ item ∈ (extend ⟨[], id⟩ before.flatten).drain.1, ∃ record, item = .ok record := by
    rw [hd]
    simp only [taking, List.forall_mem_map]
    exact fun piece _ => ⟨piece.record, rfl⟩
  rw [drainReads_append_singleton, hbefore, ← drain_extend _ _ hok]
  rfl

/-- An empty buffer takes what stands in the reads. -/
theorem Scanned.drainReads (h : Scanned reads items tail) (id : Option Int32) :
    ReceiveBuffer.drainReads ⟨[], id⟩ reads = (items, ⟨tail, id⟩) := by
  induction h with
  | @sound reads pieces tail hp hr ht =>
    have hframed : WellFramed reads.flatten := by
      rw [hr]
      exact ht.wellFramed.joined_append hp
    have hwait : next? ⟨tail, id⟩ = none := next?_eq_none_iff.2 (unfinished_iff.1 ht)
    rw [drainReads_eq_drain ⟨[], id⟩ reads rfl hframed, hr]
    show drain ⟨joined pieces ++ tail, id⟩ = _
    rw [drain_joined_append hp, drain_of_none hwait, List.append_nil]
  | @corrupt before after read rest tail pieces items hb hp hr hl hd _ ih =>
    have hread : ReceiveBuffer.drainReads ⟨[], id⟩ (before ++ [read]) =
        (pieces.map (fun piece => .ok piece.record) ++
          [.error (.invalidMessage (.lengthBelowHeader (declared rest) rest.length))],
          ⟨[], id⟩) := by
      rw [drainReads_concat hb, hr, drain_joined_append hp, drain_of_corrupt hl hd]
    have hsplit : before ++ read :: after = (before ++ [read]) ++ after := by simp
    rw [hsplit, drainReads_append, hread, ih, List.append_assoc]
    rfl

theorem Scanned.unique (h : Scanned reads items tail)
    {items' : List (Except Fault (List UInt8))} {tail' : List UInt8}
    (h' : Scanned reads items' tail') : items' = items ∧ tail' = tail := by
  obtain ⟨hitems, htail⟩ := Prod.mk.inj ((h'.drainReads none).symm.trans (h.drainReads none))
  exact ⟨hitems, congrArg bytes htail⟩

/-- What stands in front of a boundary is exact pieces. -/
theorem Boundary.exists_joined (h : Boundary stream rest) :
    ∃ pieces, (∀ piece ∈ pieces, Piece.Exact piece) ∧ stream = joined pieces ++ rest := by
  induction h with
  | front stream => exact ⟨[], by simp, rfl⟩
  | @behind stream rest hl ha _ ih =>
    obtain ⟨pieces, hp, hrest⟩ := ih
    have hn : next? ⟨stream, none⟩ = some (.ok (stream.take (declared stream)),
        ⟨stream.drop (align4 (declared stream)), none⟩) :=
      next?_eq_ok_iff.2 ⟨hl, ha, rfl, rfl⟩
    obtain ⟨gap, hpiece, hbytes, -⟩ := exists_piece hn
    refine ⟨⟨_, gap⟩ :: pieces, List.forall_mem_cons.2 ⟨hpiece, hp⟩, ?_⟩
    rw [joined, List.flatMap_cons, List.append_assoc, ← joined, ← hrest]
    exact hbytes.symm

theorem exists_corrupt (h : ¬WellFramed stream) :
    ∃ pieces rest, (∀ piece ∈ pieces, Piece.Exact piece) ∧ stream = joined pieces ++ rest ∧
      Header.size ≤ rest.length ∧ declared rest < Header.size := by
  simp only [WellFramed, not_forall, Nat.not_le] at h
  obtain ⟨rest, hb, hl, hd⟩ := h
  obtain ⟨pieces, hp, hj⟩ := hb.exists_joined
  exact ⟨pieces, rest, hp, hj, hl, hd⟩

/-- Where something is corrupt, one read is the first that shows it. -/
theorem exists_first_corrupt (h : ¬WellFramed reads.flatten) :
    ∃ before read after, reads = before ++ read :: after ∧ WellFramed before.flatten ∧
      ¬WellFramed (before.flatten ++ read) := by
  induction reads using List.reverseRecOn with
  | nil => exact absurd (.of_length_lt (Nat.zero_lt_succ _)) h
  | append_singleton reads last ih =>
    by_cases hw : WellFramed reads.flatten
    · refine ⟨reads, last, [], rfl, hw, ?_⟩
      simpa using h
    · obtain ⟨before, read, after, rfl, hb, hn⟩ := ih hw
      exact ⟨before, read, after ++ [last], by simp, hb, hn⟩

/-- All reads can be scanned. -/
theorem exists_scanned (reads : List (List UInt8)) : ∃ items tail, Scanned reads items tail := by
  induction hn : reads.length using Nat.strongRecOn generalizing reads with
  | ind n ih =>
    by_cases hw : WellFramed reads.flatten
    · obtain ⟨pieces, tail, hd, hp, hj, -⟩ := exists_pieces (extend ⟨[], none⟩ reads.flatten) hw
      have hwait := next?_drain (extend ⟨[], none⟩ reads.flatten)
      rw [hd] at hwait
      exact ⟨_, tail, .sound hp hj.symm (unfinished_iff.2 (next?_eq_none_iff.1 hwait))⟩
    · obtain ⟨before, read, after, rfl, hb, hnot⟩ := exists_first_corrupt hw
      obtain ⟨pieces, rest, hp, hj, hl, hd⟩ := exists_corrupt hnot
      have hshorter : after.length < n := by
        rw [← hn, List.length_append, List.length_cons]
        omega
      obtain ⟨items, tail, hafter⟩ := ih _ hshorter after rfl
      exact ⟨_, tail, .corrupt hb hp hj hl hd hafter⟩

end ReceiveBuffer

namespace Office

def loop? (office : Office) : Option ReceiveLoop :=
  match office.session.receiving with
  | .running loop => some loop
  | _ => none

/-- Nothing is left in the buffer of the receive loop, and all else is as it was. -/
def emptied (office : Office) (loop : ReceiveLoop) : Office :=
  office.withSession (office.session.resume { loop with buffer := loop.buffer.clear })

/-- The receive loop takes what stands in its reads, each item in its turn, and what it has not
taken is buffered. A fresh buffer would yield the same. -/
def KeepsUp (trace : List Event) (office : Office) : Prop :=
  ∃ items tail, ReceiveBuffer.Scanned (reads trace) items tail ∧
    (∀ items' tail', ReceiveBuffer.Scanned (reads trace) items' tail' →
      items' = items ∧ tail' = tail) ∧
    ReceiveBuffer.empty.drainReads (reads trace) = (items, ⟨tail, none⟩) ∧
    taken trace <+: items ∧
    ∀ loop, office.session.receiving = .running loop →
      items = taken trace ++ loop.buffer.drain.1 ∧ tail = loop.buffer.drain.2.bytes

/-- What holds whatever lengths were corrupt. -/
structure Resynchronised (port : UInt32) (trace : List Event) (office : Office) : Prop where
  keepsUp : KeepsUp trace office
  settled : Each (Settled port) trace
  /-- The loop takes the next item as soon as it is about to take or to read. -/
  takes : ∀ loop item later, Ready office.session loop → loop.buffer.drain.1 = item :: later →
    ∃ next namespaceId? fate more,
      office.step .tick = some (next, .took loop.phase item namespaceId? fate :: more)
  dropped : ∀ phase fault namespaceId? fate,
    .took phase (.error fault) namespaceId? fate ∈ trace → fate = .dropped
  /-- A corrupt length is reported once and empties the buffer, whatever the loop is about. From
  there on the loop goes by what is read then. -/
  afresh : ∀ loop length, Ready office.session loop →
    ReceiveBuffer.front loop.buffer.bytes = .malformed length →
      office.step .tick = some (office.emptied loop,
        [.took loop.phase
          (.error (.invalidMessage (.lengthBelowHeader length loop.buffer.bytes.length)))
          loop.buffer.namespaceId? .dropped]) ∧
      ∀ actions last later, (office.emptied loop).run actions = some (last, later) →
        KeepsUp later last

variable {office : Office} {trace : List Event} {loop : ReceiveLoop} {length : Nat}

theorem receiving_of_loop? (h : office.loop? = some loop) :
    office.session.receiving = .running loop := by
  unfold loop? at h
  split at h
  · cases h
    assumption
  · cases h

theorem Fed.keepsUp (h : Fed trace office) : KeepsUp trace office := by
  obtain ⟨items, tail, hscanned⟩ := ReceiveBuffer.exists_scanned (reads trace)
  have hdrain : ReceiveBuffer.empty.drainReads (reads trace) = (items, ⟨tail, none⟩) :=
    hscanned.drainReads none
  refine ⟨items, tail, hscanned, fun _ _ h' => hscanned.unique h', hdrain, ?_, ?_⟩
  · have hahead := h.ahead
    rwa [hdrain] at hahead
  · intro loop hl
    obtain ⟨hitems, htail⟩ := Prod.mk.inj (hdrain.symm.trans (h.running loop hl))
    exact ⟨hitems, congrArg ReceiveBuffer.bytes htail⟩

theorem advance_of_ready {session : Session} {item : Except Fault (List UInt8)}
    {rest : ReceiveBuffer} (hl : Ready session loop)
    (hn : loop.buffer.next? = some (item, rest)) :
    session.advance loop = some (session.take loop item rest) := by
  simp only [Session.advance, hl.unparked]
  split
  · exact absurd ‹_› (hl.unasking _)
  · exact absurd ‹_› (hl.unsending _)
  · rw [hn]

theorem step_of_next? {item : Except Fault (List UInt8)} {rest : ReceiveBuffer}
    (hl : Ready office.session loop) (hn : loop.buffer.next? = some (item, rest)) :
    office.step .tick = some (office.withSession (office.session.take loop item rest),
      .took loop.phase item rest.namespaceId?
        (fate office.session loop.phase item rest.namespaceId?) ::
          ending (office.session.take loop item rest)) := by
  simp only [step, hl.running, advance_of_ready hl hn, ticking_of_ready hl, reading, hn]
  rfl

/-- A step that meets a corrupt length does nothing but empty the buffer. -/
theorem step_of_malformed (hl : Ready office.session loop)
    (hf : ReceiveBuffer.front loop.buffer.bytes = .malformed length) :
    office.step .tick = some (office.emptied loop,
      [.took loop.phase
        (.error (.invalidMessage (.lengthBelowHeader length loop.buffer.bytes.length)))
        loop.buffer.namespaceId? .dropped]) := by
  rw [step_of_next? hl (ReceiveBuffer.next?_of_malformed hf)]
  rfl

/-- Behind a corrupt length the loop is fed by later reads alone. -/
theorem Fed.emptied (office : Office) (loop : ReceiveLoop) : Fed [] (office.emptied loop) where
  idle := nofun
  running := by
    rintro _ ⟨⟩
    have hdrain : loop.buffer.clear.drain = ([], loop.buffer.clear) :=
      ReceiveBuffer.drain_of_none rfl
    rw [hdrain]
    rfl
  ahead := List.nil_prefix

/-- A loop that goes on after a corrupt length keeps up with what is read from there on. -/
theorem keepsUp_emptied {last : Office} {actions : List Action} {later : List Event}
    (hs : Steady office.session) (hl : Ready office.session loop)
    (hr : (office.emptied loop).run actions = some (last, later)) : KeepsUp later last := by
  have hsteady : Steady (office.emptied loop).session :=
    .of_loop rfl (hs.listening hl.running) hl.unsending fun _ => hl.unasking
  have hgiven : ∀ action ∈ actions, action.Given fun _ => True :=
    fun action _ => given_true action
  have heffects := effects_run hsteady hgiven hr
  have hfed : Fed ([] ++ later) last :=
    heffects.keep (fun _ _ _ _ hf he => hf.effect he) [] (.emptied office loop)
  exact hfed.keepsUp

theorem dropped_of_settled {port : UInt32} {past : List Event} {phase : Phase} {fault : Fault}
    {namespaceId? : Option Int32} {fate : Fate}
    (h : Settled port past (.took phase (.error fault) namespaceId? fate)) : fate = .dropped := by
  have hdestined : Destined port past phase (.error fault) namespaceId? .dropped := rfl
  exact ((h .dropped).1 hdestined).symm

variable {settings : Settings} {port : UInt32} {transport : Transport} {actions : List Action}

/-- A corrupt length field costs what is buffered at that moment, and nothing else: all records
in front of it are taken, it is reported once, and from the next read on the loop takes what
a fresh buffer would. Reservations, the awaited dump and the stream stay as they are. -/
theorem run_resynchronised
    (h : (Office.new settings port transport).run actions = some (office, trace)) :
    Resynchronised port trace office := by
  have hgiven : ∀ action ∈ actions, action.Given fun _ => True :=
    fun action _ => given_true action
  have hfed := keep_run Fed (.new ..) (fun _ _ _ _ hf he => hf.effect he) hgiven h
  have hsettled := (run_orderly h).1.settled
  have hsteady := (effects_run (.new ..) hgiven h).steady (.new ..)
  refine ⟨hfed.keepsUp, hsettled, ?_, ?_, ?_⟩
  · intro loop item later hl hd
    obtain ⟨rest, hn⟩ := ReceiveBuffer.exists_next?_of_drain hd
    exact ⟨_, _, _, _, step_of_next? hl hn⟩
  · intro phase fault namespaceId? fate hm
    obtain ⟨past, later, rfl⟩ := List.append_of_mem hm
    exact dropped_of_settled (hsettled past _ later rfl)
  · intro loop length hl hf
    exact ⟨step_of_malformed hl hf, fun _ _ _ hr => keepsUp_emptied hsteady hl hr⟩

/-- Amid a dump, a record that comes in two reads. Behind its second half stands the end of the
dump, once with a length of four bytes and once as it should be. -/
def corruptBehind : List Action :=
  [.listen [⟨.getLink, .packet⟩], .tick, .tick,
    .arrive (.datagram
      [36, 0, 0, 0, 2, 0, 0, 0, 1, 0, 0, 0, 8, 0, 0, 0, 255, 255, 255, 255] none),
    .tick,
    .arrive (.datagram
      ([16, 0, 0, 0, 18, 0, 5, 0, 1, 0, 0, 0, 8, 0, 0, 0] ++
        [4, 0, 0, 0, 3, 0, 0, 0, 1, 0, 0, 0, 7, 0, 0, 0] ++
        [16, 0, 0, 0, 3, 0, 0, 0, 1, 0, 0, 0, 7, 0, 0, 0]) none),
    .tick, .tick, .tick]

/-- The end of the dump comes again. -/
def doneAgain : List Action :=
  [.arrive (.datagram [16, 0, 0, 0, 3, 0, 0, 0, 1, 0, 0, 0, 7, 0, 0, 0] none), .tick, .tick,
    .tick]

/-- What the receive loop is about, and what it has buffered, when it meets the corrupt length. -/
def corruptLoop : ReceiveLoop where
  phase := .awaiting ⟨⟨.getLink, .packet⟩, 1, []⟩ 1
  buffer :=
    ⟨[4, 0, 0, 0, 3, 0, 0, 0, 1, 0, 0, 0, 7, 0, 0, 0] ++
      [16, 0, 0, 0, 3, 0, 0, 0, 1, 0, 0, 0, 7, 0, 0, 0], none⟩
  parked? := none

theorem run_resynchronised_corruptBehind :
    ∃ office trace last later,
      (Office.new .standard 7 (.new none)).run corruptBehind = some (office, trace) ∧
        Resynchronised 7 trace office ∧ (taken trace).length = 1 ∧
        Ready office.session corruptLoop ∧
        (office.emptied corruptLoop).run doneAgain = some (last, later) ∧
        KeepsUp later last ∧ (taken later).length = 1 := by
  have hall : ((Office.new .standard 7 (.new none)).run corruptBehind).map (fun first =>
      (first.1.loop?, (taken first.2).length,
        ((first.1.emptied corruptLoop).run doneAgain).map fun last => (taken last.2).length)) =
      some (some corruptLoop, 1, some 1) := by decide +kernel
  obtain ⟨⟨office, trace⟩, hrun, hfacts⟩ := Option.map_eq_some_iff.1 hall
  obtain ⟨hloop, hfacts⟩ := Prod.mk.inj hfacts
  obtain ⟨htaken, hfacts⟩ := Prod.mk.inj hfacts
  obtain ⟨⟨last, later⟩, hlater, hagain⟩ := Option.map_eq_some_iff.1 hfacts
  have hready : Ready office.session corruptLoop :=
    ⟨receiving_of_loop? hloop, rfl, nofun, nofun⟩
  have hresynchronised := run_resynchronised hrun
  obtain ⟨-, hkeeps⟩ := hresynchronised.afresh corruptLoop 4 hready (by decide)
  exact ⟨office, trace, last, later, hrun, hresynchronised, htaken, hready, hlater,
    hkeeps _ _ _ hlater, hagain⟩

end Office
end RouteNetlink
