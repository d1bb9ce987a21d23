import RouteNetlink.Message.Basic
import RouteNetlink.Proofs.FlagText

/-! Texts without a newline. Numbers, addresses, flags and the names of all tables are such, so no
line breaks but where the text of an attribute does. -/
namespace RouteNetlink

/-- No newline stands in the text. -/
def OneLine (s : String) : Prop := '\n' ∉ s.toList

instance (s : String) : Decidable (OneLine s) := inferInstanceAs (Decidable ('\n' ∉ s.toList))

namespace OneLine

variable {s t : String}

@[simp] theorem append_iff : OneLine (s ++ t) ↔ OneLine s ∧ OneLine t := by
  simp [OneLine, not_or]

@[simp] theorem ofList_iff (cs : List Char) : OneLine (String.ofList cs) ↔ '\n' ∉ cs := by
  simp [OneLine]

/-- On tables, bytes are looked through faster than characters. -/
theorem of_bytes (h : (10 : UInt8) ∉ s.toByteArray.data.toList) : OneLine s := by
  intro hmem
  obtain ⟨before, behind, hs⟩ := List.append_of_mem hmem
  apply h
  rw [← String.utf8Encode_toList, hs]
  simp [List.utf8Encode, String.utf8EncodeChar]

theorem intercalate (hs : OneLine s) {parts : List String} (h : ∀ part ∈ parts, OneLine part) :
    OneLine (s.intercalate parts) := by
  induction parts with
  | nil => simp [OneLine]
  | cons part parts ih =>
    obtain ⟨hpart, hparts⟩ := List.forall_mem_cons.1 h
    cases parts with
    | nil => simpa using hpart
    | cons next parts =>
      rw [String.intercalate_cons_cons, append_iff, append_iff]
      exact ⟨⟨hpart, hs⟩, ih hparts⟩

theorem notMem_toDigits {base : Nat} (hb : 1 < base) (hl : base ≤ 16) (n : Nat) :
    '\n' ∉ Nat.toDigits base n := Hex.notMem_toDigits hb hl (by decide) n

@[simp] theorem nat (n : Nat) : OneLine (toString n) := by
  rw [Nat.toString_eq_ofList_toDigits, ofList_iff]
  exact notMem_toDigits (by decide) (by decide) n

@[simp] theorem int (n : Int) : OneLine (toString n) := by
  cases n with
  | ofNat n => exact nat n
  | negSucc n => exact append_iff.2 ⟨by decide, nat (n + 1)⟩

@[simp] theorem uint8 (n : UInt8) : OneLine (toString n) := nat n.toNat
@[simp] theorem uint16 (n : UInt16) : OneLine (toString n) := nat n.toNat
@[simp] theorem uint32 (n : UInt32) : OneLine (toString n) := nat n.toNat
@[simp] theorem uint64 (n : UInt64) : OneLine (toString n) := nat n.toNat
@[simp] theorem int8 (n : Int8) : OneLine (toString n) := int n.toInt
@[simp] theorem int16 (n : Int16) : OneLine (toString n) := int n.toInt
@[simp] theorem int32 (n : Int32) : OneLine (toString n) := int n.toInt
@[simp] theorem int64 (n : Int64) : OneLine (toString n) := int n.toInt

@[simp] theorem digits (n : Nat) : OneLine (Hex.digits n) :=
  (ofList_iff _).2 (notMem_toDigits (by decide) (by decide) n)

@[simp] theorem number (n : Nat) : OneLine (Hex.number n) :=
  append_iff.2 ⟨by decide, digits n⟩

theorem notMem_byte (b : UInt8) : '\n' ∉ Hex.byte b := by
  have hd : ∀ d < 16, Nat.digitChar d ≠ '\n' := by decide
  have hb := b.toNat_lt
  simp only [Hex.byte, List.mem_cons, List.not_mem_nil, or_false, not_or]
  exact ⟨fun h => hd _ (by omega) h.symm, fun h => hd _ (by omega) h.symm⟩

@[simp] theorem hex (bytes : List UInt8) : OneLine (Hex.bytes bytes) := by
  rw [OneLine, Hex.toList_bytes, List.mem_flatMap]
  rintro ⟨b, -, hb⟩
  exact notMem_byte b hb

@[simp] theorem ethernet (address : Ethernet) : OneLine address.text := by
  apply intercalate (by decide)
  intro part hp
  obtain ⟨b, -, rfl⟩ := List.mem_map.1 hp
  exact (ofList_iff _).2 (notMem_byte b)

@[simp] theorem ipv4 (address : Ipv4) : OneLine address.text := by
  apply intercalate (by decide)
  intro part hp
  obtain ⟨b, -, rfl⟩ := List.mem_map.1 hp
  exact nat b.toNat

theorem groupText (groups : List Nat) : OneLine (Ipv6.groupText groups) := by
  apply intercalate (by decide)
  intro part hp
  obtain ⟨n, -, rfl⟩ := List.mem_map.1 hp
  exact digits n

@[simp] theorem ipv6 (address : Ipv6) : OneLine address.text := by
  rw [Ipv6.text]
  split
  · exact append_iff.2 ⟨by decide, ipv4 _⟩
  · dsimp only
    split
    · exact append_iff.2 ⟨append_iff.2 ⟨groupText _, by decide⟩, groupText _⟩
    · exact groupText _

def vocabularies : List Vocabulary :=
  [RecordKind.vocabulary, Family.vocabulary, .hardware, .operState, .linkStatistic, .inetSetting,
   .inet6Setting, .scope, .routeType, .routeOrigin, .routeTable]

theorem bytes_vocabularies : ∀ vocabulary ∈ vocabularies, ∀ e ∈ vocabulary.entries,
    (10 : UInt8) ∉ e.2.toByteArray.data.toList := by decide +kernel

theorem bytes_tables : ∀ entry ∈ FlagNames.tables,
    (∀ e ∈ entry.1.entries, (10 : UInt8) ∉ e.2.toByteArray.data.toList) ∧
      (10 : UInt8) ∉ entry.2.toByteArray.data.toList := by decide +kernel

theorem bytes_sentences : ∀ e ∈ OsError.sentences,
    (10 : UInt8) ∉ e.2.toByteArray.data.toList := by decide +kernel

theorem mem_of_lookup {α β : Type} [BEq α] [LawfulBEq α] {entries : List (α × β)} {key : α}
    {value : β} (h : entries.lookup key = some value) : (key, value) ∈ entries := by
  obtain ⟨before, behind, rfl, -⟩ := List.lookup_eq_some_iff.1 h
  exact List.mem_append_right _ List.mem_cons_self

theorem label {vocabulary : Vocabulary} (h : vocabulary ∈ vocabularies) (code : Nat) :
    OneLine (vocabulary.label code) := by
  rw [Vocabulary.label]
  cases hn : vocabulary.name? code with
  | none => exact nat code
  | some name => exact of_bytes (bytes_vocabularies _ h _ (mem_of_lookup hn))

@[simp] theorem kind (kind : RecordKind) : OneLine kind.label := label (by simp [vocabularies]) _

@[simp] theorem family (family : Family) : OneLine family.label := label (by simp [vocabularies]) _

/-- The text of a word, as long as the names of its table are on one line. -/
theorem flags {names : FlagNames} (h : names ∈ FlagNames.tables.map Prod.fst) (bits : UInt64) :
    OneLine (names.text bits) := by
  obtain ⟨entry, he, rfl⟩ := List.mem_map.1 h
  rw [FlagNames.text]
  split
  · rw [(FlagNames.legible_tables _ he).2]
    exact of_bytes (bytes_tables _ he).2
  · apply intercalate (by decide)
    intro part hp
    rcases List.mem_append.1 hp with hp | hp
    · obtain ⟨e, hheld, rfl⟩ := List.mem_map.1 hp
      exact of_bytes ((bytes_tables _ he).1 _ (List.mem_of_mem_filter hheld))
    · split at hp
      · cases hp
      · obtain rfl := List.mem_singleton.1 hp
        exact number _

/-- The tables of names for attributes. A family alters the formats of a table and none of its
names. -/
def schemas : List Schema :=
  [.link .unspecified, .address .unspecified, .route .unspecified, .neighbor .unspecified,
   .networkNamespace, Nest.familiesSchema, Nest.inetSchema, Nest.inet6Schema, Nest.linkInfoSchema]

theorem bytes_schemas : ∀ schema ∈ schemas, ∀ row ∈ schema.rows,
    (10 : UInt8) ∉ row.1.toByteArray.data.toList := by decide +kernel

theorem name {schema : Schema}
    (h : ∃ listed ∈ schemas, schema.rows.map Prod.fst = listed.rows.map Prod.fst) (kind : Nat) :
    OneLine (schema.name kind) := by
  obtain ⟨listed, hl, hn⟩ := h
  have hname : schema.name kind = listed.name kind := by
    rw [Schema.name, Schema.name, Schema.name?, Schema.name?, ← List.getElem?_map,
      ← List.getElem?_map, hn]
  rw [hname, Schema.name, Schema.name?]
  cases hrow : listed.rows[kind]? with
  | none => exact nat kind
  | some row => exact of_bytes (bytes_schemas _ hl row (List.mem_of_getElem? hrow))

theorem entityName (entity : Entity) (kind : Nat) : OneLine (entity.schema.name kind) := by
  apply name
  cases entity with
  | link fields => exact ⟨.link .unspecified, by simp [schemas], rfl⟩
  | address fields => exact ⟨.address .unspecified, by simp [schemas], rfl⟩
  | route fields => exact ⟨.route .unspecified, by simp [schemas], rfl⟩
  | neighbor fields => exact ⟨.neighbor .unspecified, by simp [schemas], rfl⟩
  | networkNamespace family => exact ⟨.networkNamespace, by simp [schemas], rfl⟩

theorem nestName (nest : Nest) (kind : Nat) : OneLine (nest.schema.name kind) := by
  apply name
  refine ⟨nest.schema, ?_, rfl⟩
  cases nest <;> simp [schemas, Nest.schema]

@[simp] theorem describe (code : Int32) : OneLine (OsError.describe code) := by
  have hsentence : OneLine (OsError.sentence code) := by
    rw [OsError.sentence]
    cases hs : OsError.sentences.lookup code.toInt with
    | none => exact append_iff.2 ⟨by decide, int32 code⟩
    | some sentence => exact of_bytes (bytes_sentences _ (mem_of_lookup hs))
  have hbehind : OneLine " (os error " ∧ OneLine ")" := by decide
  exact append_iff.2 ⟨append_iff.2 ⟨append_iff.2 ⟨hsentence, hbehind.1⟩, int32 code⟩, hbehind.2⟩

end OneLine
end RouteNetlink
