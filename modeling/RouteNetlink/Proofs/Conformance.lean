import RouteNetlink.Message.Schema
import RouteNetlink.Proofs.Run

/-! Attributes that conform to a format. They come back from the bytes that spell them,
everything that a format decodes is one of them, and it can be encoded again unless its
payload was long. -/
namespace RouteNetlink

/-- The longest payload that fits again however its text grows. -/
def RunItem.growthLimit : Nat := 21843

theorem RunItem.length_le_of_mem {bs : List UInt8} {item : RunItem} (h : .ok item ∈ all bs) :
    headerSize + item.payload.length ≤ bs.length := by
  refine le_trans ?_ (footprint_all bs)
  generalize all bs = items at h
  induction items with
  | nil => cases h
  | cons item? items ih =>
    rcases List.mem_cons.1 h with rfl | hm
    · exact Nat.le_add_right _ _
    · have := ih hm
      cases item? <;> simp only [footprint] <;> omega

namespace Table

theorem mem_of_at? {table : Table} {kind : Nat} {a : Attribute} (h : table.at? kind = some a) :
    some a ∈ table :=
  List.mem_of_getElem? (Option.join_eq_some_iff.1 h)

theorem exists_at?_of_mem {table : Table} {a : Attribute} (h : some a ∈ table) :
    ∃ kind, table.at? kind = some a := by
  obtain ⟨kind, hk⟩ := List.getElem?_of_mem h
  exact ⟨kind, Option.join_eq_some_iff.2 hk⟩

end Table

namespace Format

section Induction

variable {motive : Format → Prop}

mutual

/-- A property of all formats follows from tables inheriting it from their rows. -/
@[elab_as_elim, induction_eliminator]
theorem induct (plain : ∀ form, motive (.plain form))
    (nested : ∀ nest label rows, (∀ row ∈ rows, motive row.2) →
      motive (.nested nest label rows)) : (format : Format) → motive format
  | .plain form => plain form
  | .nested nest label rows => nested nest label rows (inductRows plain nested rows)

theorem inductRows (plain : ∀ form, motive (.plain form))
    (nested : ∀ nest label rows, (∀ row ∈ rows, motive row.2) →
      motive (.nested nest label rows)) :
    (rows : List (String × Format)) → ∀ row ∈ rows, motive row.2
  | [], _, h => absurd h List.not_mem_nil
  | (_, format) :: rows, row, h =>
    (List.mem_cons.1 h).elim (fun he => he ▸ induct plain nested format)
      (inductRows plain nested rows row)

end

end Induction

/-- The attributes that conform to a format: values that its form admits, and full tables in
which each attribute conforms to the format of its kind. -/
inductive Admits : Format → Attribute → Prop where
  | value {form : Form} {v : Value} (h : form.Admits v) : Admits (.plain form) (.value v)
  | table {nest : Nest} {label : String} {rows : List (String × Format)}
      {slots : List (Option Attribute)} (hl : slots.length = rows.length)
      (h : ∀ (kind : Nat) (row : String × Format) (a : Attribute), rows[kind]? = some row →
        Table.at? slots kind = some a → Admits row.2 a) :
      Admits (.nested nest label rows) (.table nest slots)

mutual

/-- Whether all kinds of each table, at any depth, stay below the flag bits. -/
def narrow : Format → Bool
  | plain _ => true
  | nested _ _ rows => rows.length ≤ 2 ^ 14 && rowsNarrow rows

def rowsNarrow : List (String × Format) → Bool
  | [] => true
  | (_, format) :: rows => narrow format && rowsNarrow rows

end

theorem rowsNarrow_iff {rows : List (String × Format)} :
    rowsNarrow rows = true ↔ ∀ row ∈ rows, row.2.narrow = true := by
  induction rows with
  | nil => simp [rowsNarrow]
  | cons row rows ih => simp [rowsNarrow, ih]

variable {label : String} {rows : List (String × Format)}

/-- A table comes back from its run if its attributes come back from their payloads. -/
theorem decodeRun_spelled {table : Table} (hl : table.length = rows.length)
    (hn : rows.length ≤ 2 ^ 14) (hf : table.fits = true)
    (h : ∀ (kind : Nat) (row : String × Format) (a : Attribute), rows[kind]? = some row →
      table.at? kind = some a → row.2.decode a.spelled = .ok a) :
    Table.decodeRun label (decoders rows) table.spelled = .ok table := by
  apply Table.decodeRun_spelled (by simpa using hl) (by simpa using hn) hf
  intro kind a ha
  have hk : kind < rows.length := by
    obtain ⟨hk, _⟩ := List.getElem?_eq_some_iff.1 (Option.join_eq_some_iff.1 ha)
    omega
  have hrow : rows[kind]? = some rows[kind] := List.getElem?_eq_getElem hk
  refine ⟨rows[kind].2.decode, ?_, h kind rows[kind] a hrow ha⟩
  rw [decoders_eq_map, List.getElem?_map, hrow]
  rfl

/-- Conforming attributes come back from the bytes that spell them. -/
theorem decode_spelled {format : Format} {a : Attribute} (h : format.Admits a)
    (hn : format.narrow = true) (hf : a.fits = true) : format.decode a.spelled = .ok a := by
  induction h with
  | value hv =>
    rw [decode]
    exact Outcome.map_eq_ok_iff.2 ⟨_, Form.decode_encode hv, rfl⟩
  | table hl h ih =>
    rename_i nest label rows slots
    simp only [narrow, Bool.and_eq_true, decide_eq_true_eq, rowsNarrow_iff] at hn
    have hrun : Table.decodeRun label (decoders rows) (Table.spelled slots) = .ok slots := by
      apply decodeRun_spelled hl hn.1 hf
      intro kind row a hrow ha
      have hfit : a.fits = true := (Attribute.slotsFit_iff.1 hf a (Table.mem_of_at? ha)).2
      exact ih kind row a hrow ha (hn.2 row (List.mem_of_getElem? hrow)) hfit
    rw [decode]
    exact Outcome.map_eq_ok_iff.2 ⟨slots, hrun, rfl⟩

/-- A decoded table is full, and each attribute in it was decoded from an attribute of the
run by the format of its kind. -/
theorem of_decodeRun {bs : List UInt8} {table : Table}
    (h : Table.decodeRun label (decoders rows) bs = .ok table) :
    table.length = rows.length ∧ ∀ kind a, table.at? kind = some a → ∃ item row,
      .ok item ∈ RunItem.all bs ∧ rows[kind]? = some row ∧ row.2.decode item.payload = .ok a := by
  refine Table.decodeRun_invariant (motive := fun table => table.length = rows.length ∧
    ∀ kind a, table.at? kind = some a → ∃ item row, .ok item ∈ RunItem.all bs ∧
      rows[kind]? = some row ∧ row.2.decode item.payload = .ok a) ?_ ?_ h
  · exact ⟨by simp, fun kind a ha => by simp at ha⟩
  · rintro table item a hi ⟨hl, ht⟩ ha
    refine ⟨by simpa using hl, fun kind b hb => ?_⟩
    rw [Table.at?_put] at hb
    split at hb
    · rename_i hk
      obtain rfl := Option.some.inj hb
      obtain ⟨rfl, _⟩ := hk
      obtain ⟨decoder, hd, hp⟩ := Table.decodeItem_eq_ok_iff.1 ha
      rw [decoders_eq_map, List.getElem?_map] at hd
      obtain ⟨row, hrow, rfl⟩ := Option.map_eq_some_iff.1 hd
      exact ⟨item, row, hi, hrow, hp⟩
    · exact ht kind b hb

/-- A table conforms to its rows if what their formats decode conforms to these. -/
theorem admits_of_decodeRun {bs : List UInt8} {table : Table}
    (ht : Table.decodeRun label (decoders rows) bs = .ok table)
    (hrows : ∀ row ∈ rows, ∀ (payload : List UInt8) (a : Attribute),
      row.2.decode payload = .ok a → row.2.Admits a) :
    table.length = rows.length ∧
      ∀ (kind : Nat) (row : String × Format) (a : Attribute), rows[kind]? = some row →
        table.at? kind = some a → row.2.Admits a := by
  obtain ⟨hl, hdecoded⟩ := of_decodeRun ht
  refine ⟨hl, fun kind row a hrow ha => ?_⟩
  obtain ⟨item, row', _, hrow', hd⟩ := hdecoded kind a ha
  obtain rfl := Option.some.inj (hrow.symm.trans hrow')
  exact hrows row (List.mem_of_getElem? hrow) item.payload a hd

/-- Whatever a format decodes conforms to it. -/
theorem admits_of_decode {format : Format} {bs : List UInt8} {a : Attribute}
    (h : format.decode bs = .ok a) : format.Admits a := by
  induction format generalizing bs a with
  | plain form =>
    rw [decode] at h
    obtain ⟨v, hv, rfl⟩ := Outcome.map_eq_ok_iff.1 h
    exact .value (Form.admits_of_decode hv)
  | nested nest label rows ih =>
    rw [decode] at h
    obtain ⟨table, ht, rfl⟩ := Outcome.map_eq_ok_iff.1 h
    obtain ⟨hl, hrows⟩ := admits_of_decodeRun ht fun row hrow _ _ hd => ih row hrow hd
    exact .table hl hrows

/-- Decoding may triple a payload and end it with a byte of its own. -/
theorem size_le_of_decode {format : Format} {bs : List UInt8} {a : Attribute}
    (h : format.decode bs = .ok a) : a.size ≤ 3 * bs.length + 1 := by
  induction format generalizing bs a with
  | plain form =>
    rw [decode] at h
    obtain ⟨v, hv, rfl⟩ := Outcome.map_eq_ok_iff.1 h
    exact Form.size_le_of_decode hv
  | nested nest label rows ih =>
    rw [decode] at h
    obtain ⟨table, ht, rfl⟩ := Outcome.map_eq_ok_iff.1 h
    have hsize : Table.size table ≤ 3 * bs.length := by
      refine Table.size_le_of_decodeRun (fun item a _ ha => ?_) ht
      obtain ⟨decoder, hd, hp⟩ := Table.decodeItem_eq_ok_iff.1 ha
      rw [decoders_eq_map, List.getElem?_map] at hd
      obtain ⟨row, hrow, rfl⟩ := Option.map_eq_some_iff.1 hd
      exact ih row (List.mem_of_getElem? hrow) hp
    exact Nat.le_succ_of_le hsize

/-- A table fits if the payloads in its run are short and what they decode to fits. -/
theorem fits_of_decodeRun {bs : List UInt8} {table : Table}
    (ht : Table.decodeRun label (decoders rows) bs = .ok table)
    (hb : ∀ item, .ok item ∈ RunItem.all bs → item.payload.length ≤ RunItem.growthLimit)
    (hfit : ∀ row ∈ rows, ∀ (payload : List UInt8) (a : Attribute),
      payload.length ≤ RunItem.growthLimit → row.2.decode payload = .ok a → a.fits = true) :
    table.fits = true := by
  refine Attribute.slotsFit_iff.2 fun a ha => ?_
  obtain ⟨kind, hk⟩ := Table.exists_at?_of_mem ha
  obtain ⟨item, row, hi, hrow, hd⟩ := (of_decodeRun ht).2 kind a hk
  have hp : item.payload.length ≤ 21843 := hb item hi
  have hsize : a.size ≤ 3 * item.payload.length + 1 := size_le_of_decode hd
  have hmax : Attribute.maxSize = 65531 := rfl
  exact ⟨by omega, hfit row (List.mem_of_getElem? hrow) item.payload a hp hd⟩

/-- What was decoded from a short payload fits again. -/
theorem fits_of_decode {format : Format} {bs : List UInt8} {a : Attribute}
    (h : format.decode bs = .ok a) (hb : bs.length ≤ RunItem.growthLimit) : a.fits = true := by
  induction format generalizing bs a with
  | plain form =>
    rw [decode] at h
    obtain ⟨v, _, rfl⟩ := Outcome.map_eq_ok_iff.1 h
    rfl
  | nested nest label rows ih =>
    rw [decode] at h
    obtain ⟨table, ht, rfl⟩ := Outcome.map_eq_ok_iff.1 h
    refine fits_of_decodeRun ht (fun item hi => ?_) fun row hrow payload a hp hd => ih row hrow hd hp
    have := RunItem.length_le_of_mem hi
    omega

end Format

namespace Schema

structure Admits (schema : Schema) (table : Table) : Prop where
  slots : table.length = schema.slots
  row : ∀ (kind : Nat) (format : Format) (a : Attribute), schema.format? kind = some format →
    table.at? kind = some a → format.Admits a

def narrow (schema : Schema) : Bool := schema.slots ≤ 2 ^ 14 && Format.rowsNarrow schema.rows

variable {schema : Schema} {table : Table}

theorem admits_empty (schema : Schema) : schema.Admits (Table.empty schema.slots) :=
  ⟨by simp, fun kind format a _ ha => by simp at ha⟩

theorem Admits.put {kind : Nat} {a : Attribute} (ht : schema.Admits table)
    (ha : ∀ format, schema.format? kind = some format → format.Admits a) :
    schema.Admits (table.put kind a) := by
  refine ⟨by simpa using ht.slots, fun other format b hf hb => ?_⟩
  rw [Table.at?_put] at hb
  split at hb
  · rename_i hk
    obtain rfl := Option.some.inj hb
    exact ha format (hk.1 ▸ hf)
  · exact ht.row other format b hf hb

/-- Conforming tables come back from the runs that spell them. -/
theorem decode_spelled (h : schema.Admits table) (hn : schema.narrow = true)
    (hf : table.fits = true) : schema.decode table.spelled = .ok table := by
  simp only [narrow, Bool.and_eq_true, decide_eq_true_eq, Format.rowsNarrow_iff] at hn
  apply Format.decodeRun_spelled h.slots hn.1 hf
  intro kind row a hrow ha
  have hformat : schema.format? kind = some row.2 := by rw [format?, hrow]; rfl
  exact Format.decode_spelled (h.row kind row.2 a hformat ha)
    (hn.2 row (List.mem_of_getElem? hrow)) (Attribute.slotsFit_iff.1 hf a (Table.mem_of_at? ha)).2

/-- Whatever a schema decodes conforms to it. -/
theorem admits_of_decode {run : List UInt8} (h : schema.decode run = .ok table) :
    schema.Admits table := by
  obtain ⟨hl, hrows⟩ :=
    Format.admits_of_decodeRun h fun _ _ _ _ hd => Format.admits_of_decode hd
  refine ⟨hl, fun kind format a hf ha => ?_⟩
  obtain ⟨row, hrow, rfl⟩ := Option.map_eq_some_iff.1 hf
  exact hrows kind row a hrow ha

/-- What was decoded from short payloads fits again. -/
theorem fits_of_decode {run : List UInt8} (h : schema.decode run = .ok table)
    (hb : ∀ item, .ok item ∈ RunItem.all run → item.payload.length ≤ RunItem.growthLimit) :
    table.fits = true :=
  Format.fits_of_decodeRun h hb fun _ _ _ _ hp hd => Format.fits_of_decode hd hp

theorem narrow_link (family : Family) : (link family).narrow = true := by
  by_cases h : family = Family.bridge
  · simp only [link, familySettings, if_pos h]
    decide
  · simp only [link, familySettings, if_neg h]
    decide

end Schema
end RouteNetlink
