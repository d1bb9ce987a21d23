import RouteNetlink.Proofs.Grammar

/-! How an encoding fills its buffer. A buffer of another size is refused, and so is whatever
holds, at any depth, an attribute that no length field can tell. All else is laid out record by
record, and nothing that the buffer held is left. -/
namespace RouteNetlink

namespace Attribute

def held : Attribute → Table
  | value _ => []
  | table _ slots => slots

/-- An attribute is stored in a table under a kind, or in what is stored there, at any depth. -/
inductive Stored (kind : Nat) (b : Attribute) : Table → Prop where
  | slot {slots : Table} (h : slots.at? kind = some b) : Stored kind b slots
  | inside {slots : Table} {outer : Nat} {a : Attribute} (h : slots.at? outer = some a)
      (hb : Stored kind b a.held) : Stored kind b slots

mutual

/-- The layout of an attribute. A table is the records of what it holds, by increasing kinds as
far as sixteen bits tell kinds apart. -/
inductive Laid : (a : Attribute) → (bytes : List UInt8) → Prop where
  | value (v : Value) : Laid (.value v) v.encode
  | table {nest : Nest} {slots : Table} {chunks : List Chunk} (h : Recorded 0 slots chunks)
      (increasing : (∀ kind a, slots.at? kind = some a → kind < 2 ^ 16) →
        chunks.Pairwise fun c d => c.code.toNat < d.code.toNat) :
      Laid (.table nest slots) (chunks.flatMap Chunk.bytes)

/-- The records of the slots from a kind on. The length of each counts its header and its value,
and zeros bring it to the next boundary. -/
inductive Recorded : (kind : Nat) → (slots : Table) → (chunks : List Chunk) → Prop where
  | done {kind : Nat} : Recorded kind [] []
  | vacant {kind : Nat} {slots : Table} {chunks : List Chunk}
      (h : Recorded (kind + 1) slots chunks) : Recorded kind (none :: slots) chunks
  | record {kind : Nat} {a : Attribute} {slots : Table} {chunk : Chunk} {chunks : List Chunk}
      (code : chunk.code.toNat = kind % 2 ^ 16) (laid : Laid a chunk.payload)
      (size : chunk.size = 4 + a.size) (short : 4 + a.size < 2 ^ 16)
      (gap : chunk.gap = List.replicate chunk.slack 0)
      (h : Recorded (kind + 1) slots chunks) : Recorded kind (some a :: slots) (chunk :: chunks)

end

/-- An encoding of an attribute, or of what it holds, ends in one of three ways: the buffer has
another size, something in it is too long, or the buffer holds the layout. -/
structure Fills (a : Attribute) (encodeInto : List UInt8 → Filled) : Prop where
  length : a.spelled.length = a.size
  truncated_iff : ∀ buffer expected actual,
    (encodeInto buffer).fault? = some (.truncated expected actual) ↔
      buffer.length ≠ a.size ∧ expected = a.size ∧ actual = buffer.length
  invalid_iff : ∀ buffer,
    (∃ flaw, (encodeInto buffer).fault? = some (.invalidAttribute flaw)) ↔
      buffer.length = a.size ∧ ∃ kind b, Stored kind b a.held ∧ 65531 < b.size
  blames : ∀ buffer flaw, (encodeInto buffer).fault? = some (.invalidAttribute flaw) →
    ∃ kind b, Stored kind b a.held ∧ 65531 < b.size ∧ flaw = .tooLong kind b.size
  filled : ∀ buffer, buffer.length = a.size →
    (∀ kind b, Stored kind b a.held → b.size ≤ 65531) → encodeInto buffer = ⟨a.spelled, none⟩
  laid : (∀ kind b, Stored kind b a.held → b.size ≤ 65531) → Laid a a.spelled

variable {a b : Attribute} {kind : Nat} {slots : List (Option Attribute)} {chunks : List Chunk}
  {buffer : List UInt8} {flaw : AttributeFlaw}

theorem Stored.size_le (h : Stored kind b slots) (hf : slotsFit slots = true) :
    b.size ≤ maxSize := by
  induction h with
  | slot h => exact (slotsFit_iff.1 hf _ (Table.mem_of_at? h)).1
  | @inside slots outer a h hb ih =>
    have hfits : fits a = true := (slotsFit_iff.1 hf _ (Table.mem_of_at? h)).2
    cases a with
    | value v => exact ih rfl
    | table nest inner => exact ih hfits

theorem fits_of_stored (h : ∀ kind b, Stored kind b a.held → b.size ≤ maxSize) :
    fits a = true := by
  induction a with
  | value v => rfl
  | table nest slots ih =>
    apply slotsFit_iff.2
    intro a ha
    obtain ⟨outer, hat⟩ := Table.exists_at?_of_mem ha
    exact ⟨h outer a (.slot hat), ih a ha fun kind b hb => h kind b (.inside hat hb)⟩

/-- An attribute fits where nothing that is stored in it is too long. -/
theorem fits_iff : fits a = true ↔ ∀ kind b, Stored kind b a.held → b.size ≤ maxSize := by
  constructor
  · intro h kind b hb
    cases a with
    | value v => exact hb.size_le rfl
    | table nest slots => exact hb.size_le h
  · exact fits_of_stored

/-- A fault in the slots comes from one that is too long, or from inside one. -/
theorem exists_slot_of_encodeSlots
    (h : (encodeSlots kind buffer slots).fault? = some (.invalidAttribute flaw)) :
    ∃ index a, Table.at? slots index = some a ∧
      ((maxSize < a.size ∧ flaw = .tooLong (kind + index) a.size) ∨
        ∃ inner, (encodeInto inner a).fault? = some (.invalidAttribute flaw)) := by
  induction slots generalizing kind buffer with
  | nil => cases h
  | cons slot slots ih =>
    have later {buffer : List UInt8}
        (h : (encodeSlots (kind + 1) buffer slots).fault? = some (.invalidAttribute flaw)) :
        ∃ index a, Table.at? (slot :: slots) index = some a ∧
          ((maxSize < a.size ∧ flaw = .tooLong (kind + index) a.size) ∨
            ∃ inner, (encodeInto inner a).fault? = some (.invalidAttribute flaw)) := by
      obtain ⟨index, a, hat, hcause⟩ := ih h
      refine ⟨index + 1, a, hat, ?_⟩
      rwa [Nat.add_assoc, Nat.add_comm 1] at hcause
    cases slot with
    | none => exact later h
    | some a =>
      rw [encodeSlots] at h
      split at h
      · rename_i hlong
        cases h
        exact ⟨0, a, rfl, .inl ⟨hlong, rfl⟩⟩
      · dsimp only at h
        split at h
        · rename_i fault hinner
          cases h
          exact ⟨0, a, rfl, .inr ⟨_, hinner⟩⟩
        · exact later h

/-- The attribute that a refusal names is stored inside and is too long. -/
theorem encodeInto_blames
    (h : (encodeInto buffer a).fault? = some (.invalidAttribute flaw)) :
    ∃ kind b, Stored kind b a.held ∧ maxSize < b.size ∧ flaw = .tooLong kind b.size := by
  induction a generalizing buffer with
  | value v =>
    rw [encodeInto] at h
    split at h <;> cases h
  | table nest slots ih =>
    rw [encodeInto] at h
    split at h
    · obtain ⟨index, a, hat, ⟨hlong, hflaw⟩ | ⟨inner, hinner⟩⟩ := exists_slot_of_encodeSlots h
      · rw [Nat.zero_add] at hflaw
        exact ⟨index, a, .slot hat, hlong, hflaw⟩
      · obtain ⟨kind, b, hb, hlong, hflaw⟩ := ih a (Table.mem_of_at? hat) hinner
        exact ⟨kind, b, .inside hat hb, hlong, hflaw⟩
    · cases h

theorem encodeInto_of_mismatch (h : buffer.length ≠ a.size) :
    encodeInto buffer a = ⟨buffer, some (.truncated a.size buffer.length)⟩ := by
  cases a with
  | value v => exact if_neg h
  | table nest slots => exact if_neg h

/-- Records have the kinds of their slots, so each has a greater one than those in front. -/
theorem Recorded.increasing (h : Recorded kind slots chunks)
    (hk : ∀ index a, Table.at? slots index = some a → kind + index < 2 ^ 16) :
    (∀ chunk ∈ chunks, kind ≤ chunk.code.toNat) ∧
      chunks.Pairwise fun c d => c.code.toNat < d.code.toNat := by
  induction slots generalizing kind chunks with
  | nil =>
    cases h with
    | done => exact ⟨by simp, .nil⟩
  | cons slot slots ih =>
    have hk' : ∀ index a, Table.at? slots index = some a → kind + 1 + index < 2 ^ 16 := by
      intro index a hat
      have := hk (index + 1) a hat
      omega
    cases h with
    | vacant h =>
      obtain ⟨hlow, hpairs⟩ := ih h hk'
      exact ⟨fun chunk hm => Nat.le_of_succ_le (hlow chunk hm), hpairs⟩
    | @record _ a _ chunk chunks code _ _ _ _ h =>
      obtain ⟨hlow, hpairs⟩ := ih h hk'
      have hcode : chunk.code.toNat = kind := by
        rw [code]
        exact Nat.mod_eq_of_lt (hk 0 a rfl)
      constructor
      · intro other hm
        rcases List.mem_cons.1 hm with rfl | hm
        · exact hcode.ge
        · exact Nat.le_of_succ_le (hlow other hm)
      · refine List.pairwise_cons.2 ⟨fun other hm => ?_, hpairs⟩
        rw [hcode]
        exact hlow other hm

/-- The record of one attribute, as it is written. -/
theorem bytes_record (kind : Nat) (h : a.size ≤ maxSize) :
    header kind a.size ++ a.spelled ++ padding a.size =
      (Chunk.mk (UInt16.ofNat kind) a.spelled (padding a.size)).bytes := by
  have hsize : (UInt16.ofNat (4 + a.size)).toNat = 4 + a.size := by
    have hmax : a.size ≤ 65531 := h
    rw [UInt16.toNat_ofNat', Nat.mod_eq_of_lt (by omega)]
  have hheader : header kind a.size = LittleEndian.bytes 2 (UInt16.ofNat (4 + a.size)).toNat ++
      LittleEndian.bytes 2 (UInt16.ofNat kind).toNat := rfl
  rw [hheader, hsize, Chunk.bytes, Chunk.size, length_spelled]

theorem recorded_spelledSlots (kind : Nat)
    (ih : ∀ a, some a ∈ slots → fits a = true → Laid a a.spelled)
    (hf : slotsFit slots = true) :
    ∃ chunks, Recorded kind slots chunks ∧
      spelledSlots kind slots = chunks.flatMap Chunk.bytes := by
  induction slots generalizing kind with
  | nil => exact ⟨[], .done, rfl⟩
  | cons slot slots ihs =>
    have ih' := fun a ha => ih a (List.mem_cons_of_mem _ ha)
    cases slot with
    | none =>
      obtain ⟨chunks, hr, hb⟩ := ihs (kind + 1) ih' hf
      exact ⟨chunks, .vacant hr, hb⟩
    | some a =>
      simp only [slotsFit, Bool.and_eq_true, decide_eq_true_eq] at hf
      obtain ⟨⟨hmax, hfit⟩, hrest⟩ := hf
      obtain ⟨chunks, hr, hb⟩ := ihs (kind + 1) ih' hrest
      have hshort : 4 + a.size < 2 ^ 16 := by
        have : a.size ≤ 65531 := hmax
        omega
      have hgap : padding a.size = List.replicate
          (Chunk.mk (UInt16.ofNat kind) a.spelled (padding a.size)).slack 0 := by
        rw [RunItem.slack_eq, length_spelled]
        rfl
      refine ⟨⟨UInt16.ofNat kind, a.spelled, padding a.size⟩ :: chunks, ?_, ?_⟩
      · apply Recorded.record (UInt16.toNat_ofNat' ..) (ih a List.mem_cons_self hfit) _ hshort
          hgap hr
        rw [Chunk.size, length_spelled]
      · rw [List.flatMap_cons, ← hb, ← bytes_record kind hmax, spelledSlots]

/-- What fits is laid out by its spelling. -/
theorem laid_spelled (h : fits a = true) : Laid a a.spelled := by
  induction a with
  | value v => exact .value v
  | table nest slots ih =>
    obtain ⟨chunks, hr, hb⟩ := recorded_spelledSlots 0 ih h
    have hlaid : Laid (.table nest slots) (chunks.flatMap Chunk.bytes) := by
      refine .table hr fun hk => (hr.increasing ?_).2
      simpa using hk
    rw [← hb] at hlaid
    exact hlaid

theorem sizeOfSlots_mod (slots : List (Option Attribute)) : sizeOfSlots slots % 4 = 0 := by
  induction slots with
  | nil => rfl
  | cons slot slots ih =>
    cases slot with
    | none => exact ih
    | some a =>
      have := align4_mod (size a)
      simp only [sizeOfSlots, RunItem.headerSize]
      omega

theorem not_truncated {expected actual : Nat} (hl : buffer.length = a.size) :
    (encodeInto buffer a).fault? ≠ some (.truncated expected actual) := by
  cases hf : fits a with
  | true =>
    rw [encodeInto_of_fits hl hf]
    exact nofun
  | false =>
    obtain ⟨kind, size, hfault⟩ := encodeInto_overlong hl hf
    rw [hfault]
    exact nofun

theorem fills (a : Attribute) : Fills a (encodeInto · a) where
  length := length_spelled a
  truncated_iff := by
    intro buffer expected actual
    by_cases hl : buffer.length = a.size
    · exact ⟨fun h => absurd h (not_truncated hl), fun h => absurd hl h.1⟩
    · rw [encodeInto_of_mismatch hl]
      simp only [Option.some.injEq, Fault.truncated.injEq, ne_eq, hl, not_false_eq_true, true_and]
      exact and_congr eq_comm eq_comm
  invalid_iff := by
    intro buffer
    constructor
    · rintro ⟨flaw, h⟩
      obtain ⟨kind, b, hb, hlong, -⟩ := encodeInto_blames h
      refine ⟨?_, kind, b, hb, hlong⟩
      by_contra hl
      rw [encodeInto_of_mismatch hl] at h
      cases h
    · rintro ⟨hl, kind, b, hb, hlong⟩
      have hf : fits a = false := by
        rw [Bool.eq_false_iff]
        intro hf
        exact absurd (fits_iff.1 hf kind b hb) (Nat.not_le.2 hlong)
      obtain ⟨kind, size, hfault⟩ := encodeInto_overlong hl hf
      exact ⟨_, hfault⟩
  blames := fun buffer flaw h => encodeInto_blames h
  filled := fun buffer hl h => encodeInto_of_fits hl (fits_iff.2 h)
  laid := fun h => laid_spelled (fits_iff.2 h)

end Attribute

namespace Table

/-- A table of a given length that was filled by kinds of sixteen bits, one after another. -/
def ofEntries (slots : Nat) (entries : List (UInt16 × Attribute)) : Table :=
  entries.foldl (fun table entry => table.put entry.1.toNat entry.2) (empty slots)

theorem kind_lt_of_foldl {entries : List (UInt16 × Attribute)} {table : Table}
    (h : ∀ kind a, table.at? kind = some a → kind < 2 ^ 16) :
    ∀ kind a, (entries.foldl (fun table entry => table.put entry.1.toNat entry.2) table).at? kind =
      some a → kind < 2 ^ 16 := by
  induction entries generalizing table with
  | nil => exact h
  | cons entry entries ih =>
    apply ih
    intro kind a hat
    rw [at?_put] at hat
    split at hat
    · rename_i hkind
      rw [hkind.1]
      exact entry.1.toNat_lt
    · exact h kind a hat

/-- An attribute, with tables nested to any depth, fills a buffer of exactly its size with bytes
that it alone determines, unless something stored in it is too long. A table does the same, and
however long it is, the kinds stored in it keep to sixteen bits. -/
theorem encodeInto_fills :
    (∀ a : Attribute, a.Fills (a.encodeInto ·)) ∧
      (∀ (table : Table) (nest : Nest),
        table.size % 4 = 0 ∧ (Attribute.table nest table).Fills (table.encodeInto ·)) ∧
      ∀ slots entries kind a, (ofEntries slots entries).at? kind = some a → kind < 2 ^ 16 := by
  refine ⟨Attribute.fills, ?_, ?_⟩
  · intro table nest
    exact ⟨Attribute.sizeOfSlots_mod table, Attribute.fills (.table nest table)⟩
  · intro slots entries
    exact kind_lt_of_foldl (by simp)

/-- Nothing of the eights is left. -/
example :
    encodeInto (List.replicate 8 8) [none, some (.value (.text ""))] =
      ⟨[5, 0, 1, 0, 0, 0, 0, 0], none⟩ := by
  decide +kernel

end Table

end RouteNetlink
