import RouteNetlink.Message.Decode
import RouteNetlink.Message.ReceiveBuffer

/-! Records taken from a stream that arrives in reads. Where the stream is cut decides when
a record is taken, and nothing else. -/
namespace RouteNetlink

namespace Header

/-- The length field stands at the front of a record. -/
theorem length_of_decode {record : List UInt8} {header : Header}
    (h : decode record = .ok header) : header.length.toNat = ReceiveBuffer.declared record := by
  unfold decode Layout.leading at h
  split at h
  · cases h
    simp only [ReceiveBuffer.declared, ofWire, wire, Layout.pair, List.take_take]
    rfl
  · cases h

theorem exists_decode {record : List UInt8} (h : size ≤ record.length) :
    ∃ header, decode record = .ok header := by
  have hr : reaches wire.width record = true := (reaches_iff _ _).2 h
  exact ⟨ofWire (wire.decode (record.take wire.width)), by
    rw [decode, Layout.leading, if_pos hr]
    rfl⟩

end Header

namespace ReceiveBuffer

theorem declared_append (bs more : List UInt8) (h : 4 ≤ bs.length) :
    declared (bs ++ more) = declared bs := by
  unfold declared
  rw [List.take_append_of_le_length h]

theorem declared_take {bs : List UInt8} {n : Nat} (h : 4 ≤ n) :
    declared (bs.take n) = declared bs := by
  unfold declared
  rw [List.take_take, Nat.min_eq_left h]

/-- What it takes for a record to be taken, which one it is, and what stays. -/
theorem next?_eq_ok_iff {buffer rest : ReceiveBuffer} {record : List UInt8} :
    buffer.next? = some (.ok record, rest) ↔
      Header.size ≤ declared buffer.bytes ∧
        align4 (declared buffer.bytes) ≤ buffer.bytes.length ∧
        record = buffer.bytes.take (declared buffer.bytes) ∧
        rest = { buffer with bytes := buffer.bytes.drop (align4 (declared buffer.bytes)) } := by
  constructor
  · intro h
    unfold next? at h
    split at h
    · cases h
    · cases h
    · rename_i length hf
      obtain ⟨hd, hl, ha⟩ := front_eq_record_iff.1 hf
      cases h
      subst hd
      exact ⟨hl, ha, rfl, rfl⟩
  · rintro ⟨hl, ha, rfl, rfl⟩
    have hf : front buffer.bytes = .record (declared buffer.bytes) :=
      front_eq_record_iff.2 ⟨rfl, hl, ha⟩
    simp only [next?, hf]

/-- A record that is complete is taken no matter what follows it. -/
theorem next?_extend {buffer rest : ReceiveBuffer} {record : List UInt8}
    (h : buffer.next? = some (.ok record, rest)) (more : List UInt8) :
    (buffer.extend more).next? = some (.ok record, rest.extend more) := by
  obtain ⟨hl, ha, rfl, rfl⟩ := next?_eq_ok_iff.1 h
  have hs : Header.size = 16 := rfl
  have hle := le_align4 (declared buffer.bytes)
  have hd := declared_append buffer.bytes more (by omega)
  rw [next?_eq_ok_iff]
  simp only [extend, hd]
  refine ⟨hl, by simp; omega, ?_, ?_⟩
  · rw [List.take_append_of_le_length (by omega)]
  · rw [List.drop_append_of_le_length ha]

theorem drain_of_none {buffer : ReceiveBuffer} (h : buffer.next? = none) :
    buffer.drain = ([], buffer) := by
  rw [drain]
  split
  · rfl
  · simp_all

theorem drain_of_some {buffer rest : ReceiveBuffer} {item : Except Fault (List UInt8)}
    (h : buffer.next? = some (item, rest)) :
    buffer.drain = (item :: rest.drain.1, rest.drain.2) := by
  rw [drain]
  split <;> simp_all

/-- What stays after a drain waits for more bytes. -/
theorem next?_drain (buffer : ReceiveBuffer) : buffer.drain.2.next? = none := by
  induction hn : buffer.size using Nat.strongRecOn generalizing buffer with
  | ind n ih =>
    cases h : buffer.next? with
    | none => simpa [drain_of_none h] using h
    | some taken =>
      rw [drain_of_some h]
      exact ih _ (hn ▸ size_of_next? h) _ rfl

/-- Records that can be taken now are taken in front of whatever arrives later. -/
theorem drain_extend (buffer : ReceiveBuffer) (more : List UInt8)
    (h : ∀ item ∈ buffer.drain.1, ∃ record, item = .ok record) :
    (buffer.extend more).drain =
      (buffer.drain.1 ++ (buffer.drain.2.extend more).drain.1,
        (buffer.drain.2.extend more).drain.2) := by
  induction hn : buffer.size using Nat.strongRecOn generalizing buffer with
  | ind n ih =>
    cases ht : buffer.next? with
    | none => simp [drain_of_none ht]
    | some taken =>
      obtain ⟨item, rest⟩ := taken
      rw [drain_of_some ht] at h ⊢
      obtain ⟨record, rfl⟩ := h item List.mem_cons_self
      have hrest : ∀ item ∈ rest.drain.1, ∃ record, item = .ok record :=
        fun item hi => h item (List.mem_cons_of_mem _ hi)
      have hr := ih rest.size (hn ▸ size_of_next? ht) rest hrest rfl
      rw [drain_of_some (next?_extend ht more), hr]
      rfl

/-- Where records start: at the front of a stream, and behind each complete record and its
padding. -/
inductive Boundary : (stream rest : List UInt8) → Prop where
  | front (stream : List UInt8) : Boundary stream stream
  | behind {stream rest : List UInt8} (hl : Header.size ≤ declared stream)
      (ha : align4 (declared stream) ≤ stream.length)
      (h : Boundary (stream.drop (align4 (declared stream))) rest) : Boundary stream rest

/-- No record that starts in the stream declares less than its own header. -/
def WellFramed (stream : List UInt8) : Prop :=
  ∀ rest, Boundary stream rest → Header.size ≤ rest.length → Header.size ≤ declared rest

theorem Boundary.append {stream rest : List UInt8} (h : Boundary stream rest)
    (more : List UInt8) : Boundary (stream ++ more) (rest ++ more) := by
  induction h with
  | front stream => exact .front _
  | @behind stream rest hl ha _ ih =>
    have hs : Header.size = 16 := rfl
    have hle := le_align4 (declared stream)
    have hd := declared_append stream more (by omega)
    refine .behind (by rw [hd]; exact hl) (by rw [hd]; simp; omega) ?_
    rw [hd, List.drop_append_of_le_length ha]
    exact ih

theorem Boundary.trans {stream middle rest : List UInt8} (h : Boundary stream middle)
    (h' : Boundary middle rest) : Boundary stream rest := by
  induction h with
  | front stream => exact h'
  | behind hl ha _ ih => exact .behind hl ha (ih h')

theorem WellFramed.of_boundary {stream rest : List UInt8} (h : WellFramed stream)
    (hb : Boundary stream rest) : WellFramed rest :=
  fun later hl => h later (hb.trans hl)

theorem WellFramed.of_append {stream more : List UInt8} (h : WellFramed (stream ++ more)) :
    WellFramed stream := by
  intro rest hb hr
  have hs : Header.size = 16 := rfl
  have := h _ (hb.append more) (by simp; omega)
  rwa [declared_append _ _ (by omega)] at this

/-- The scan of a well framed stream meets no malformed record. -/
theorem WellFramed.next? {buffer rest : ReceiveBuffer} {item : Except Fault (List UInt8)}
    (h : WellFramed buffer.bytes) (ht : buffer.next? = some (item, rest)) :
    ∃ record, item = .ok record := by
  unfold ReceiveBuffer.next? at ht
  split at ht
  · cases ht
  · rename_i length hf
    obtain ⟨hr, hd, hl⟩ := front_eq_malformed_iff.1 hf
    have := h _ (.front _) hr
    omega
  · cases ht
    exact ⟨_, rfl⟩

theorem Boundary.length_le {stream rest : List UInt8} (h : Boundary stream rest) :
    rest.length ≤ stream.length := by
  induction h with
  | front stream => exact Nat.le_refl _
  | behind hl ha _ ih =>
    rw [List.length_drop] at ih
    omega

/-- A stream that is shorter than a header holds no record. -/
theorem WellFramed.of_length_lt {stream : List UInt8} (h : stream.length < Header.size) :
    WellFramed stream := by
  intro rest hb hr
  have := hb.length_le
  omega

/-- A record with the padding that is removed behind it. -/
structure Piece where
  record : List UInt8
  gap : List UInt8

namespace Piece

/-- The record is as long as its header says, and the gap reaches to the next boundary. -/
structure Exact (piece : Piece) : Prop where
  header : Header.size ≤ piece.record.length
  length : declared piece.record = piece.record.length
  gap : piece.gap.length = align4 piece.record.length - piece.record.length

def bytes (piece : Piece) : List UInt8 := piece.record ++ piece.gap

theorem Exact.length_bytes {piece : Piece} (h : piece.Exact) :
    piece.bytes.length = align4 piece.record.length := by
  have := le_align4 piece.record.length
  simp only [bytes, List.length_append, h.gap]
  omega

theorem Exact.gap_le {piece : Piece} (h : piece.Exact) : piece.gap.length ≤ 3 := by
  have := align4_lt piece.record.length
  rw [h.gap]
  omega

theorem Exact.declared_bytes {piece : Piece} (h : piece.Exact) (more : List UInt8) :
    declared (piece.bytes ++ more) = piece.record.length := by
  have hs : Header.size = 16 := rfl
  have hh := h.header
  rw [bytes, List.append_assoc, declared_append _ _ (by omega), h.length]

/-- The length check of a record that was taken from a buffer never fails. -/
theorem Exact.ofRecord {piece : Piece} (h : piece.Exact) :
    ∃ header, Header.decode piece.record = .ok header ∧
      header.length.toNat = piece.record.length ∧
      Opened.ofRecord piece.record = Opened.ofBody header (piece.record.drop Header.size) := by
  obtain ⟨header, hd⟩ := Header.exists_decode h.header
  have hl : header.length.toNat = piece.record.length :=
    (Header.length_of_decode hd).trans h.length
  refine ⟨header, hd, hl, ?_⟩
  have hh := h.header
  have hc : ¬(piece.record.length < Header.size ∨ piece.record.length < piece.record.length) := by
    omega
  simp only [Opened.ofRecord, hd, bind, Except.bind, hl, if_neg hc, List.take_length]

/-- An exact piece at the front is taken as a whole. -/
theorem Exact.drain {piece : Piece} (h : piece.Exact) (more : List UInt8)
    (id : Option Int32) :
    ReceiveBuffer.drain ⟨piece.bytes ++ more, id⟩ =
      (.ok piece.record :: (ReceiveBuffer.drain ⟨more, id⟩).1,
        (ReceiveBuffer.drain ⟨more, id⟩).2) := by
  have hd := h.declared_bytes more
  have hlen := h.length_bytes
  apply drain_of_some
  rw [next?_eq_ok_iff]
  simp only [hd]
  refine ⟨h.header, by simp [hlen], ?_, ?_⟩
  · rw [bytes, List.append_assoc, List.take_left']
    rfl
  · rw [← hlen, List.drop_left']
    rfl

end Piece

/-- A record that is taken is an exact piece of the buffer. -/
theorem exists_piece {buffer rest : ReceiveBuffer} {record : List UInt8}
    (h : buffer.next? = some (.ok record, rest)) :
    ∃ gap, (Piece.mk record gap).Exact ∧ record ++ gap ++ rest.bytes = buffer.bytes ∧
      Boundary buffer.bytes rest.bytes := by
  obtain ⟨hl, ha, rfl, rfl⟩ := next?_eq_ok_iff.1 h
  have hs : Header.size = 16 := rfl
  have hle := le_align4 (declared buffer.bytes)
  have hlen : (buffer.bytes.take (declared buffer.bytes)).length = declared buffer.bytes := by
    rw [List.length_take]
    omega
  let gap := (buffer.bytes.drop (declared buffer.bytes)).take
    (align4 (declared buffer.bytes) - declared buffer.bytes)
  refine ⟨gap, ⟨?_, ?_, ?_⟩, ?_, .behind hl ha (.front _)⟩
  · rw [hlen]
    exact hl
  · rw [hlen, declared_take (by omega)]
  · rw [hlen]
    simp only [gap, List.length_take, List.length_drop]
    omega
  · have hdrop : buffer.bytes.drop (align4 (declared buffer.bytes)) =
        (buffer.bytes.drop (declared buffer.bytes)).drop
          (align4 (declared buffer.bytes) - declared buffer.bytes) := by
      rw [List.drop_drop]
      congr 1
      omega
    dsimp only
    rw [hdrop, List.append_assoc, List.take_append_drop, List.take_append_drop]

def joined (pieces : List Piece) : List UInt8 := pieces.flatMap Piece.bytes

theorem Piece.Exact.wellFramed {piece : Piece} {rest : List UInt8} (h : piece.Exact)
    (hr : WellFramed rest) : WellFramed (piece.bytes ++ rest) := by
  intro later hb hlater
  have hd := h.declared_bytes rest
  cases hb with
  | front =>
    rw [hd]
    exact h.header
  | behind _ _ hb =>
    rw [hd, ← h.length_bytes, List.drop_left' rfl] at hb
    exact hr later hb hlater

theorem WellFramed.joined_append {pieces : List Piece} {tail : List UInt8}
    (hp : ∀ piece ∈ pieces, piece.Exact) (h : WellFramed tail) :
    WellFramed (joined pieces ++ tail) := by
  induction pieces with
  | nil => exact h
  | cons piece pieces ih =>
    obtain ⟨hpiece, hrest⟩ := List.forall_mem_cons.1 hp
    rw [joined, List.flatMap_cons, List.append_assoc]
    exact hpiece.wellFramed (ih hrest)

theorem wellFramed_joined {pieces : List Piece} (h : ∀ piece ∈ pieces, piece.Exact) :
    WellFramed (joined pieces) := by
  have hnil : WellFramed [] := .of_length_lt (Nat.zero_lt_succ _)
  have hjoined := hnil.joined_append h
  rwa [List.append_nil] at hjoined

/-- What a drain gives when it takes these pieces and leaves this tail. -/
def taking (pieces : List Piece) (tail : ReceiveBuffer) :
    List (Except Fault (List UInt8)) × ReceiveBuffer :=
  (pieces.map fun piece => .ok piece.record, tail)

/-- Exact pieces are taken one by one in front of whatever stands behind them. -/
theorem drain_joined_append {pieces : List Piece} (hp : ∀ piece ∈ pieces, piece.Exact)
    (tail : List UInt8) (id : Option Int32) :
    ReceiveBuffer.drain ⟨joined pieces ++ tail, id⟩ =
      (pieces.map (fun piece => .ok piece.record) ++ (ReceiveBuffer.drain ⟨tail, id⟩).1,
        (ReceiveBuffer.drain ⟨tail, id⟩).2) := by
  induction pieces with
  | nil => rfl
  | cons piece pieces ih =>
    obtain ⟨hpiece, hrest⟩ := List.forall_mem_cons.1 hp
    have hd := hpiece.drain (joined pieces ++ tail) id
    rw [ih hrest] at hd
    rw [joined, List.flatMap_cons, List.append_assoc]
    exact hd

/-- Exact pieces one behind another are taken one by one, and nothing stays. -/
theorem drain_joined {pieces : List Piece} (h : ∀ piece ∈ pieces, piece.Exact)
    (id : Option Int32) : ReceiveBuffer.drain ⟨joined pieces, id⟩ = taking pieces ⟨[], id⟩ := by
  have hnil : ReceiveBuffer.drain ⟨[], id⟩ = ([], ⟨[], id⟩) := drain_of_none rfl
  have hdrain := drain_joined_append h [] id
  rwa [hnil, List.append_nil, List.append_nil] at hdrain

/-- The pieces that a drain takes, with what stays, are the buffer. -/
theorem exists_pieces (buffer : ReceiveBuffer) (h : WellFramed buffer.bytes) :
    ∃ pieces tail, buffer.drain = taking pieces { buffer with bytes := tail } ∧
      (∀ piece ∈ pieces, piece.Exact) ∧ joined pieces ++ tail = buffer.bytes ∧
      Boundary buffer.bytes tail := by
  induction hn : buffer.size using Nat.strongRecOn generalizing buffer with
  | ind n ih =>
    cases ht : buffer.next? with
    | none => exact ⟨[], buffer.bytes, drain_of_none ht, by simp, rfl, .front _⟩
    | some taken =>
      obtain ⟨item, rest⟩ := taken
      obtain ⟨record, rfl⟩ := h.next? ht
      obtain ⟨gap, hpiece, hbytes, hb⟩ := exists_piece ht
      have hid : rest.namespaceId? = buffer.namespaceId? := by
        obtain ⟨_, _, _, rfl⟩ := next?_eq_ok_iff.1 ht
        rfl
      obtain ⟨pieces, tail, hd, hp, hj, ht'⟩ :=
        ih rest.size (hn ▸ size_of_next? ht) rest (h.of_boundary hb) rfl
      refine ⟨⟨record, gap⟩ :: pieces, tail, ?_, ?_, ?_, hb.trans ht'⟩
      · rw [drain_of_some ht, hd, hid]
        rfl
      · exact List.forall_mem_cons.2 ⟨hpiece, hp⟩
      · rw [← hbytes, ← hj]
        simp only [joined, List.flatMap_cons, Piece.bytes, List.append_assoc]

/-- Feeds reads one after another and takes what can be taken after each. -/
def drainReads (buffer : ReceiveBuffer) :
    (reads : List (List UInt8)) → List (Except Fault (List UInt8)) × ReceiveBuffer
  | [] => ([], buffer)
  | read :: reads =>
    let first := (buffer.extend read).drain
    let later := drainReads first.2 reads
    (first.1 ++ later.1, later.2)

/-- A buffer that waits for more takes the same records from any cut of what arrives. -/
theorem drainReads_eq_drain (buffer : ReceiveBuffer) (reads : List (List UInt8))
    (hw : buffer.next? = none) (h : WellFramed (buffer.bytes ++ reads.flatten)) :
    buffer.drainReads reads = (buffer.extend reads.flatten).drain := by
  induction reads generalizing buffer with
  | nil =>
    have hnil : buffer.extend [].flatten = buffer := by simp [extend]
    rw [hnil, drain_of_none hw, drainReads]
  | cons read reads ih =>
    have happend : (buffer.extend read).extend reads.flatten =
        buffer.extend (read :: reads).flatten := by simp [extend]
    rw [List.flatten_cons, ← List.append_assoc] at h
    obtain ⟨pieces, tail, hd, _, _, hb⟩ := exists_pieces (buffer.extend read) h.of_append
    have hok : ∀ item ∈ (buffer.extend read).drain.1, ∃ record, item = .ok record := by
      rw [hd]
      simp only [taking, List.forall_mem_map]
      exact fun piece _ => ⟨piece.record, rfl⟩
    have hstay : (buffer.extend read).drain.2.bytes = tail := by rw [hd]; rfl
    have hlater : WellFramed ((buffer.extend read).drain.2.bytes ++ reads.flatten) := by
      rw [hstay]
      exact h.of_boundary (hb.append _)
    rw [← happend, drain_extend _ _ hok, drainReads, ih _ (next?_drain _) hlater]

/-- Reassembly does not depend on how a stream was cut into reads. Each record is as long
as its own header says, so that its length check cannot fail, and the records with at most
three bytes of padding behind each, and what stays buffered, are the stream. -/
theorem drainReads_wellFramed (reads : List (List UInt8)) (id : Option Int32)
    (h : WellFramed reads.flatten) :
    ∃ (pieces : List Piece) (tail : List UInt8),
      drainReads ⟨[], id⟩ reads = taking pieces ⟨tail, id⟩ ∧
      (extend ⟨[], id⟩ reads.flatten).drain = taking pieces ⟨tail, id⟩ ∧
      (∀ piece ∈ pieces, piece.gap.length ≤ 3 ∧
        ∃ header, Header.decode piece.record = .ok header ∧
          header.length.toNat = piece.record.length ∧
          Opened.ofRecord piece.record =
            Opened.ofBody header (piece.record.drop Header.size)) ∧
      pieces.flatMap (fun piece => piece.record ++ piece.gap) ++ tail = reads.flatten := by
  obtain ⟨pieces, tail, hd, hp, hj, _⟩ := exists_pieces (extend ⟨[], id⟩ reads.flatten) h
  have heq := drainReads_eq_drain ⟨[], id⟩ reads rfl h
  refine ⟨pieces, tail, heq.trans hd, hd, ?_, hj⟩
  exact fun piece hm => ⟨(hp piece hm).gap_le, (hp piece hm).ofRecord⟩

/-- A request of 17 bytes, cut inside its length field and inside its padding, and the start of
another record. -/
theorem drainReads_wellFramed_request :
    let reads : List (List UInt8) :=
      [[17, 0], [], [0, 0, 18, 0, 1, 3, 1, 0, 0, 0, 0, 0, 0, 0, 17, 0], [0, 0, 20], [0]]
    WellFramed reads.flatten ∧
      drainReads ⟨[], none⟩ reads = (extend ⟨[], none⟩ reads.flatten).drain := by
  intro reads
  let piece : Piece :=
    ⟨[17, 0, 0, 0, 18, 0, 1, 3, 1, 0, 0, 0, 0, 0, 0, 0, 17], [0, 0, 0]⟩
  have hpiece : piece.Exact := ⟨by decide, by decide, by decide⟩
  have hrest : WellFramed [20, 0] := .of_length_lt (by decide)
  have hframed : WellFramed reads.flatten := hpiece.wellFramed hrest
  obtain ⟨pieces, tail, hreads, hwhole, _⟩ := drainReads_wellFramed reads none hframed
  exact ⟨hframed, hreads.trans hwhole.symm⟩

end ReceiveBuffer
end RouteNetlink
