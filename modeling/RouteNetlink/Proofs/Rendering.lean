import RouteNetlink.Message.Decode
import RouteNetlink.Proofs.Filling
import RouteNetlink.Proofs.OneLine

/-! The lines of a message's text. A field has a line, a block has one with its name and the lines
of what it holds one level deeper, and each line ends with a newline. Nothing but the text of an
attribute has another newline in it. That is written as it came, so the rest of such a text stands
on a line that nothing indents. -/
namespace RouteNetlink

namespace Outline

def Line.chars (line : Line) : List Char :=
  List.replicate (4 * line.depth) ' ' ++ line.text.toList

def Line.ofField (level : Nat) (field : String × String) : Line :=
  ⟨level, field.1 ++ ": " ++ field.2⟩

def Line.heading (level : Nat) (name : String) : Line := ⟨level, name ++ ":"⟩

def ofField (field : String × String) : Outline := .field field.1 field.2

end Outline

open Outline (Line)

mutual

/-- The lines of an attribute that stands under a name at some level. -/
inductive Attribute.Shown : (level : Nat) → (name : String) → Attribute → List Line → Prop where
  | line {level : Nat} {name said : String} {v : Value} (h : v.line? = some said) :
      Attribute.Shown level name (.value v) [.ofField level (name, said)]
  | fields {level : Nat} {name : String} {v : Value} {fields : List (String × String)}
      (h : v.line? = none) (hv : v.outline = fields.map Outline.ofField) :
      Attribute.Shown level name (.value v)
        (.heading level name :: fields.map (.ofField (level + 1)))
  | table {level : Nat} {name : String} {nest : Nest} {slots : Table} {lines : List Line}
      (h : Attribute.ShownSlots (level + 1) nest.schema.name 0 slots lines) :
      Attribute.Shown level name (.table nest slots) (.heading level name :: lines)

/-- The lines of the slots from a kind on. -/
inductive Attribute.ShownSlots :
    (level : Nat) → (name : Nat → String) → (kind : Nat) → Table → List Line → Prop where
  | done {level : Nat} {name : Nat → String} {kind : Nat} :
      Attribute.ShownSlots level name kind [] []
  | vacant {level : Nat} {name : Nat → String} {kind : Nat} {slots : Table} {lines : List Line}
      (h : Attribute.ShownSlots level name (kind + 1) slots lines) :
      Attribute.ShownSlots level name kind (none :: slots) lines
  | present {level : Nat} {name : Nat → String} {kind : Nat} {a : Attribute} {slots : Table}
      {own lines : List Line} (ha : Attribute.Shown level (name kind) a own)
      (h : Attribute.ShownSlots level name (kind + 1) slots lines) :
      Attribute.ShownSlots level name kind (some a :: slots) (own ++ lines)

end

/-- A text stored at any depth, one that has a newline, breaks the line it stands on. -/
def Table.Breaks (slots : Table) (line : Line) : Prop :=
  ∃ kind level name s, Attribute.Stored kind (.value (.text s)) slots ∧ ¬OneLine s ∧
    line = .ofField level (name, s)

namespace Body

/-- The attributes of what a body is about. -/
def attributes : Body → Table
  | entity _ attributes => attributes
  | _ => []

/-- The lines behind those of the header. -/
inductive Shown : Body → List Line → Prop where
  | noop : Shown .noop []
  | done : Shown .done []
  | reply {code : Int32} {request : Header} {error : String} {fields : List (String × String)}
      (he : error = if code = 0 then "none" else OsError.describe (Fault.magnitude code))
      (h : request.outline = fields.map Outline.ofField) :
      Shown (.reply code request) (.ofField 1 ("error", error) ::
        .heading 1 ("req: " ++ request.kind.label) :: fields.map (.ofField 2))
  | query (family : Family) : Shown (.query family) [.ofField 1 ("family", family.label)]
  | entity {entity : Entity} {attributes : Table} {fields : List (String × String)}
      {lines : List Line} (h : entity.outline = fields.map Outline.ofField)
      (ha : Attribute.ShownSlots 1 entity.schema.name 0 attributes lines) :
      Shown (.entity entity attributes) (fields.map (.ofField 1) ++ lines)

end Body

namespace Message

/-- The kind of a message heads its lines. -/
inductive Shown : Message → List Line → Prop where
  | message {header : Header} {body : Body} {fields : List (String × String)}
      {lines : List Line} (hh : header.outline = fields.map Outline.ofField)
      (hb : body.Shown lines) :
      Shown ⟨header, body⟩ (.heading 0 header.kind.label :: (fields.map (.ofField 1) ++ lines))

/-- The text of a message comes from these lines and no others. A newline within one of them breaks
it, and only the lines of text attributes can have one. -/
structure Outlined (message : Message) (lines : List Line) : Prop where
  shown_iff : ∀ others, message.Shown others ↔ others = lines
  first : lines.head? = some ⟨0, message.kind.label ++ ":"⟩
  indented : ∀ line ∈ lines.tail, 0 < line.depth
  pieces : message.text.toList.splitOn '\n' =
    lines.flatMap (fun line => line.chars.splitOn '\n') ++ [[]]
  broken : ∀ line ∈ lines, ¬OneLine line.text → message.body.attributes.Breaks line
  whole_iff : message.text.toList.splitOn '\n' = lines.map Line.chars ++ [[]] ↔
    ∀ kind s, Attribute.Stored kind (.value (.text s)) message.body.attributes → OneLine s

end Message

section Pieces

variable {α : Type} [BEq α] [LawfulBEq α] {mark : α}

theorem notMem_of_mem_splitOn {xs piece : List α} (h : piece ∈ xs.splitOn mark) :
    mark ∉ piece := by
  induction xs generalizing piece with
  | nil =>
    rw [List.splitOn_nil, List.mem_singleton] at h
    simp [h]
  | cons x xs ih =>
    rw [List.splitOn_cons_eq_if_modifyHead] at h
    split at h
    · rcases List.mem_cons.1 h with rfl | h
      · exact List.not_mem_nil
      · exact ih h
    · rename_i hx
      obtain ⟨front, behind, hs⟩ := List.exists_cons_of_ne_nil (List.splitOn_ne_nil mark xs)
      rw [hs] at h ih
      rcases List.mem_cons.1 h with rfl | h
      · have hfront : mark ∉ front := ih List.mem_cons_self
        have hne : mark ≠ x := fun he => hx (by simp [he])
        simp [hne, hfront]
      · exact ih (List.mem_cons_of_mem _ h)

end Pieces

namespace Outline

variable {level : Nat} {name value : String} {field : String × String}

theorem Line.mem_chars_iff (line : Line) : '\n' ∈ line.chars ↔ ¬OneLine line.text := by
  simp [Line.chars, OneLine, List.mem_replicate]

theorem toList_join_render (lines : List Line) :
    (String.join (lines.map Line.render)).toList =
      lines.flatMap fun line => line.chars ++ ['\n'] := by
  induction lines with
  | nil => simp
  | cons line lines ih =>
    rw [List.map_cons, String.join_cons, String.toList_append, ih, List.flatMap_cons]
    simp [Line.render, Line.chars]

theorem splitOn_flatMap (lines : List Line) :
    (lines.flatMap fun line => line.chars ++ ['\n']).splitOn '\n' =
      lines.flatMap (fun line => line.chars.splitOn '\n') ++ [[]] := by
  induction lines with
  | nil => simp
  | cons line lines ih =>
    rw [List.flatMap_cons, List.append_assoc, List.singleton_append,
      List.splitOn_append_cons_self, ih, List.flatMap_cons, List.append_assoc]

/-- Lines are their own pieces as long as none of them is broken. -/
theorem flatMap_splitOn_eq_iff (lines : List Line) :
    lines.flatMap (fun line => line.chars.splitOn '\n') = lines.map Line.chars ↔
      ∀ line ∈ lines, OneLine line.text := by
  constructor
  · intro h line hm
    -- Each line is a piece of some line, and no piece has a newline in it.
    have hpiece : line.chars ∈ lines.flatMap fun line => line.chars.splitOn '\n' := by
      rw [h]
      exact List.mem_map_of_mem hm
    obtain ⟨other, -, hsplit⟩ := List.mem_flatMap.1 hpiece
    by_contra hbroken
    exact notMem_of_mem_splitOn hsplit ((Line.mem_chars_iff line).2 hbroken)
  · intro h
    induction lines with
    | nil => rfl
    | cons line lines ih =>
      obtain ⟨hline, hlines⟩ := List.forall_mem_cons.1 h
      have hwhole : '\n' ∉ line.chars := fun hm => (Line.mem_chars_iff line).1 hm hline
      rw [List.flatMap_cons, List.splitOn_eq_singleton hwhole, ih hlines, List.map_cons,
        List.singleton_append]

theorem fields_inj {fields others : List (String × String)}
    (h : fields.map ofField = others.map ofField) : fields = others := by
  apply List.map_injective_iff.2 _ h
  rintro ⟨name, value⟩ ⟨name', value'⟩ h
  cases h
  rfl

theorem linesOf_fields (level : Nat) (fields : List (String × String)) :
    linesOf level (fields.map ofField) = fields.map (Line.ofField level) := by
  induction fields with
  | nil => rfl
  | cons field fields ih =>
    rw [List.map_cons, linesOf, ih]
    rfl

/-- A field that takes one line. -/
inductive Plain : Outline → Prop where
  | field {name value : String} (hn : OneLine name) (hv : OneLine value) :
      Plain (.field name value)

@[simp] theorem plain_field_iff : Plain (.field name value) ↔ OneLine name ∧ OneLine value :=
  ⟨fun | .field hn hv => ⟨hn, hv⟩, fun ⟨hn, hv⟩ => .field hn hv⟩

theorem Line.oneLine_ofField (hn : OneLine name) :
    OneLine (Line.ofField level (name, value)).text ↔ OneLine value := by
  have hcolon : OneLine ": " := by decide
  simp [Line.ofField, hn, hcolon]

theorem Line.oneLine_heading (hn : OneLine name) : OneLine (Line.heading level name).text := by
  have hcolon : OneLine ":" := by decide
  simp [Line.heading, hn, hcolon]

theorem exists_fields {items : List Outline} (h : ∀ item ∈ items, item.Plain) :
    ∃ fields : List (String × String), items = fields.map ofField := by
  induction items with
  | nil => exact ⟨[], rfl⟩
  | cons item items ih =>
    obtain ⟨hitem, hitems⟩ := List.forall_mem_cons.1 h
    obtain ⟨fields, rfl⟩ := ih hitems
    cases hitem with
    | @field name value hn hv => exact ⟨(name, value) :: fields, rfl⟩

/-- The lines of fields that take one line each. -/
theorem of_mem_fields {items : List Outline} {fields : List (String × String)}
    (h : ∀ item ∈ items, item.Plain) (he : items = fields.map ofField) {line : Line}
    (hm : line ∈ fields.map (Line.ofField level)) : line.depth = level ∧ OneLine line.text := by
  obtain ⟨field, hf, rfl⟩ := List.mem_map.1 hm
  rw [he] at h
  obtain ⟨hn, hv⟩ := plain_field_iff.1 (h _ (List.mem_map_of_mem hf))
  exact ⟨rfl, (Line.oneLine_ofField hn).2 hv⟩

end Outline

theorem Header.plain_outline (header : Header) : ∀ item ∈ header.outline, item.Plain := by
  have hflags : OneLine (FlagNames.header.text header.flags.toUInt64) :=
    OneLine.flags (by simp [FlagNames.tables]) _
  rw [outline, List.forall_mem_append, List.forall_mem_append]
  refine ⟨⟨?_, ?_⟩, ?_⟩
  · cases header.namespaceId? <;> simp +decide
  · simp +decide
  · split <;> simp +decide [hflags]

theorem LinkEntity.plain_outline (link : LinkEntity) : ∀ item ∈ link.outline, item.Plain := by
  have hflags (bits : UInt64) : OneLine (FlagNames.link.text bits) :=
    OneLine.flags (by simp [FlagNames.tables]) _
  have htype : OneLine (Vocabulary.hardware.label link.hardware.toNat) :=
    OneLine.label (by simp [OneLine.vocabularies]) _
  rw [outline, List.forall_mem_append]
  constructor
  · simp +decide [hflags, htype]
  · split <;> simp +decide [hflags]

theorem AddressEntity.plain_outline (address : AddressEntity) :
    ∀ item ∈ address.outline, item.Plain := by
  have hflags : OneLine (FlagNames.address.text address.flags.toUInt64) :=
    OneLine.flags (by simp [FlagNames.tables]) _
  have hscope : OneLine (Vocabulary.scope.label address.scope.toNat) :=
    OneLine.label (by simp [OneLine.vocabularies]) _
  rw [outline]
  simp +decide [hflags, hscope]

theorem RouteEntity.plain_outline (route : RouteEntity) : ∀ item ∈ route.outline, item.Plain := by
  have hflags : OneLine (FlagNames.route.text route.flags.toUInt64) :=
    OneLine.flags (by simp [FlagNames.tables]) _
  have hlabel {vocabulary : Vocabulary} (h : vocabulary ∈ [Vocabulary.routeTable,
      .routeOrigin, .scope, .routeType]) (code : Nat) : OneLine (vocabulary.label code) := by
    apply OneLine.label
    simp only [List.mem_cons, List.not_mem_nil, or_false] at h
    rcases h with rfl | rfl | rfl | rfl <;> simp [OneLine.vocabularies]
  rw [outline, List.forall_mem_append]
  constructor
  · simp +decide [hlabel]
  · split <;> simp +decide [hflags]

theorem NeighborEntity.plain_outline (neighbor : NeighborEntity) :
    ∀ item ∈ neighbor.outline, item.Plain := by
  have hstate : OneLine (FlagNames.neighborState.text neighbor.state.toUInt64) :=
    OneLine.flags (by simp [FlagNames.tables]) _
  have hflags : OneLine (FlagNames.neighbor.text neighbor.flags.toUInt64) :=
    OneLine.flags (by simp [FlagNames.tables]) _
  have htype : OneLine (Vocabulary.routeType.label neighbor.type.toNat) :=
    OneLine.label (by simp [OneLine.vocabularies]) _
  rw [outline, List.forall_mem_append]
  constructor
  · simp +decide [hstate, htype]
  · split <;> simp +decide [hflags]

theorem Entity.plain_outline (entity : Entity) : ∀ item ∈ entity.outline, item.Plain := by
  cases entity with
  | link fields => exact fields.plain_outline
  | address fields => exact fields.plain_outline
  | route fields => exact fields.plain_outline
  | neighbor fields => exact fields.plain_outline
  | networkNamespace family => simp +decide [outline]

theorem Counters.plain_outline (counters : Counters UInt64) :
    ∀ item ∈ counters.outline, item.Plain := by
  intro item hm
  obtain ⟨⟨count, i⟩, -, hitem⟩ := List.mem_filterMap.1 hm
  dsimp only at hitem
  split at hitem
  · cases hitem
    exact .field (OneLine.label (by simp [OneLine.vocabularies]) _) (OneLine.uint64 _)
  · cases hitem

namespace Value

variable {v : Value} {said : String}

theorem plain_settingsOutline {names : Vocabulary} (h : names ∈ OneLine.vocabularies)
    (values : List UInt32) : ∀ item ∈ settingsOutline names values, item.Plain := by
  intro item hm
  obtain ⟨⟨value, i⟩, -, hitem⟩ := List.mem_filterMap.1 hm
  dsimp only at hitem
  split at hitem
  · cases hitem
  · cases hitem
    exact .field (OneLine.label h _) (OneLine.uint32 _)

/-- What takes more than one line takes one for each field. -/
theorem plain_outline (h : v.line? = none) : ∀ item ∈ v.outline, item.Plain := by
  cases v with
  | counters32 counters => exact counters.widen.plain_outline
  | counters64 counters => exact counters.plain_outline
  | addressCacheInfo info => simp +decide [outline, AddressCacheInfo.outline]
  | neighborCacheInfo info => simp +decide [outline, NeighborCacheInfo.outline]
  | routeCacheInfo info => simp +decide [outline, RouteCacheInfo.outline]
  | inet6CacheInfo info => simp +decide [outline, Inet6CacheInfo.outline]
  | inetSettings values => exact plain_settingsOutline (by simp [OneLine.vocabularies]) values
  | inet6Settings values => exact plain_settingsOutline (by simp [OneLine.vocabularies]) values
  | _ => cases h

/-- Only text can break the line of a value. -/
theorem eq_text_of_broken (h : v.line? = some said) (hb : ¬OneLine said) : v = .text said := by
  cases v with
  | text s =>
    cases h
    rfl
  | operState code =>
    cases h
    exact absurd (OneLine.label (by simp [OneLine.vocabularies]) _) hb
  | addressFlags bits | inet6LinkFlags bits =>
    cases h
    exact absurd (OneLine.flags (by simp [FlagNames.tables]) _) hb
  | _ =>
    cases h
    all_goals exact absurd (by simp) hb

end Value

namespace Attribute

variable {level kind : Nat} {title : String} {name : Nat → String} {a : Attribute}
  {slots : List (Option Attribute)} {lines : List Line} {line : Line} {s : String}

theorem shownSlots_iff_of
    (ih : ∀ a, some a ∈ slots → ∀ {level title lines},
      Shown level title a lines ↔ lines = Outline.lines level (outlineNamed title a)) :
    ShownSlots level name kind slots lines ↔
      lines = Outline.linesOf level (outlineSlots name kind slots) := by
  induction slots generalizing kind lines with
  | nil =>
    constructor
    · rintro ⟨⟩
      rfl
    · rintro rfl
      exact .done
  | cons slot slots ihs =>
    have ihs' {kind : Nat} {lines : List Line} : ShownSlots level name kind slots lines ↔
        lines = Outline.linesOf level (outlineSlots name kind slots) :=
      ihs fun a ha => ih a (List.mem_cons_of_mem _ ha)
    cases slot with
    | none =>
      constructor
      · intro h
        cases h with
        | vacant h => exact ihs'.1 h
      · rintro rfl
        exact .vacant (ihs'.2 rfl)
    | some a =>
      constructor
      · intro h
        cases h with
        | present ha h =>
          rw [(ih a List.mem_cons_self).1 ha, ihs'.1 h]
          rfl
      · rintro rfl
        exact .present ((ih a List.mem_cons_self).2 rfl) (ihs'.2 rfl)

/-- The lines of an attribute are the ones of its outline. -/
theorem shown_iff :
    Shown level title a lines ↔ lines = Outline.lines level (outlineNamed title a) := by
  induction a generalizing level title lines with
  | value v =>
    cases hv : v.line? with
    | none =>
      have hlines : Outline.lines level (outlineNamed title (.value v)) =
          .heading level title :: Outline.linesOf (level + 1) v.outline := by
        rw [outlineNamed, hv]
        rfl
      rw [hlines]
      constructor
      · intro h
        cases h with
        | line h => rw [hv] at h; cases h
        | fields _ hfields => rw [hfields, Outline.linesOf_fields]
      · rintro rfl
        obtain ⟨fields, hfields⟩ := Outline.exists_fields (Value.plain_outline hv)
        rw [hfields, Outline.linesOf_fields]
        exact .fields hv hfields
    | some said =>
      have hlines : Outline.lines level (outlineNamed title (.value v)) =
          [.ofField level (title, said)] := by
        rw [outlineNamed, hv]
        rfl
      rw [hlines]
      constructor
      · intro h
        cases h with
        | line h => rw [hv] at h; cases h; rfl
        | fields h => rw [hv] at h; cases h
      · rintro rfl
        exact .line hv
  | table nest slots ih =>
    constructor
    · intro h
      cases h with
      | table h =>
        rw [(shownSlots_iff_of ih).1 h]
        rfl
    · rintro rfl
      exact .table ((shownSlots_iff_of ih).2 rfl)

theorem shownSlots_iff : ShownSlots level name kind slots lines ↔
    lines = Outline.linesOf level (outlineSlots name kind slots) :=
  shownSlots_iff_of fun _ _ _ _ _ => shown_iff

/-- Each line of the slots comes from the attribute in one of them. -/
theorem ShownSlots.exists_of_mem (h : ShownSlots level name kind slots lines) (hm : line ∈ lines) :
    ∃ index a own, Table.at? slots index = some a ∧
      Shown level (name (kind + index)) a own ∧ line ∈ own := by
  induction slots generalizing kind lines with
  | nil =>
    cases h
    cases hm
  | cons slot slots ih =>
    have later {lines : List Line} (h : ShownSlots level name (kind + 1) slots lines)
        (hm : line ∈ lines) : ∃ index a own, Table.at? (slot :: slots) index = some a ∧
          Shown level (name (kind + index)) a own ∧ line ∈ own := by
      obtain ⟨index, a, own, hat, hown, hm⟩ := ih h hm
      rw [Nat.add_assoc, Nat.add_comm 1] at hown
      exact ⟨index + 1, a, own, hat, hown, hm⟩
    cases h with
    | vacant h => exact later h hm
    | present ha h =>
      rcases List.mem_append.1 hm with hm | hm
      · exact ⟨0, _, _, rfl, ha, hm⟩
      · exact later h hm

theorem ShownSlots.exists_own (h : ShownSlots level name kind slots lines) {index : Nat}
    (hat : Table.at? slots index = some a) :
    ∃ own, Shown level (name (kind + index)) a own ∧ own ⊆ lines := by
  induction slots generalizing kind lines index with
  | nil => cases hat
  | cons slot slots ih =>
    cases index with
    | zero =>
      cases h with
      | vacant h => cases hat
      | present ha h =>
        cases hat
        exact ⟨_, ha, List.subset_append_left _ _⟩
    | succ index =>
      have hindex : kind + 1 + index = kind + (index + 1) := by omega
      cases h with
      | vacant h =>
        obtain ⟨own, hown, hsub⟩ := ih h hat
        rw [hindex] at hown
        exact ⟨own, hown, hsub⟩
      | present ha h =>
        obtain ⟨own, hown, hsub⟩ := ih h hat
        rw [hindex] at hown
        exact ⟨own, hown, List.subset_append_of_subset_right _ hsub⟩

/-- Nothing that an attribute shows is less deep than its name. -/
theorem Shown.level_le (h : Shown level title a lines) : ∀ line ∈ lines, level ≤ line.depth := by
  induction a generalizing level title lines with
  | value v =>
    cases h with
    | line h => simp [Outline.Line.ofField]
    | fields h hv =>
      intro line hm
      rcases List.mem_cons.1 hm with rfl | hm
      · exact Nat.le_refl level
      · obtain ⟨field, -, rfl⟩ := List.mem_map.1 hm
        exact Nat.le_succ level
  | table nest slots ih =>
    cases h with
    | table h =>
      intro line hm
      rcases List.mem_cons.1 hm with rfl | hm
      · exact Nat.le_refl level
      · obtain ⟨index, a, own, hat, hown, hm⟩ := h.exists_of_mem hm
        exact Nat.le_of_succ_le (ih a (Table.mem_of_at? hat) hown line hm)

/-- A broken line is the one of a text that is broken itself. -/
theorem Shown.broken (h : Shown level title a lines) (ht : OneLine title) (hm : line ∈ lines)
    (hb : ¬OneLine line.text) : ∃ level title s, ¬OneLine s ∧ line = .ofField level (title, s) ∧
      (a = .value (.text s) ∨ ∃ kind, Stored kind (.value (.text s)) a.held) := by
  induction a generalizing level title lines with
  | value v =>
    cases h with
    | @line _ _ said _ h =>
      obtain rfl := List.mem_singleton.1 hm
      have hsaid : ¬OneLine said := fun hs => hb ((Outline.Line.oneLine_ofField ht).2 hs)
      obtain rfl := Value.eq_text_of_broken h hsaid
      exact ⟨level, title, said, hsaid, rfl, .inl rfl⟩
    | fields h hv =>
      rcases List.mem_cons.1 hm with rfl | hm
      · exact absurd (Outline.Line.oneLine_heading ht) hb
      · exact absurd (Outline.of_mem_fields (Value.plain_outline h) hv hm).2 hb
  | table nest slots ih =>
    cases h with
    | table h =>
      rcases List.mem_cons.1 hm with rfl | hm
      · exact absurd (Outline.Line.oneLine_heading ht) hb
      · obtain ⟨index, a, own, hat, hown, hm⟩ := h.exists_of_mem hm
        obtain ⟨level, title, s, hs, hline, hcause⟩ :=
          ih a (Table.mem_of_at? hat) hown (OneLine.nestName nest _) hm
        refine ⟨level, title, s, hs, hline, .inr ?_⟩
        rcases hcause with rfl | ⟨kind, hstored⟩
        · exact ⟨index, .slot hat⟩
        · exact ⟨kind, .inside hat hstored⟩

theorem ShownSlots.level_le (h : ShownSlots level name kind slots lines) (hm : line ∈ lines) :
    level ≤ line.depth := by
  obtain ⟨index, a, own, -, hown, hm⟩ := h.exists_of_mem hm
  exact hown.level_le line hm

theorem ShownSlots.broken (h : ShownSlots level name kind slots lines)
    (hn : ∀ kind, OneLine (name kind)) (hm : line ∈ lines) (hb : ¬OneLine line.text) :
    Table.Breaks slots line := by
  obtain ⟨index, a, own, hat, hown, hm⟩ := h.exists_of_mem hm
  obtain ⟨level, title, s, hs, hline, rfl | ⟨kind, hstored⟩⟩ := hown.broken (hn _) hm hb
  · exact ⟨index, level, title, s, .slot hat, hs, hline⟩
  · exact ⟨kind, level, title, s, .inside hat hstored, hs, hline⟩

theorem not_stored_nil {b : Attribute} : ¬Stored kind b [] := by
  rintro (h | ⟨h, -⟩) <;> cases h

/-- Each text that is stored has a line, however deep it stands. -/
theorem ShownSlots.exists_line_of_stored (h : ShownSlots level name kind slots lines) {code : Nat}
    (hs : Stored code (.value (.text s)) slots) :
    ∃ level title, Line.ofField level (title, s) ∈ lines := by
  induction hs generalizing level name kind lines with
  | slot hat =>
    obtain ⟨own, hown, hsub⟩ := h.exists_own hat
    rw [shown_iff] at hown
    subst hown
    exact ⟨level, _, hsub List.mem_cons_self⟩
  | @inside slots outer a hat hb ih =>
    obtain ⟨own, hown, hsub⟩ := h.exists_own hat
    cases hown with
    | line h => exact absurd hb not_stored_nil
    | fields h => exact absurd hb not_stored_nil
    | table h =>
      obtain ⟨level, title, hm⟩ := ih h
      exact ⟨level, title, hsub (List.mem_cons_of_mem _ hm)⟩

end Attribute

namespace Body

variable {body : Body} {lines : List Line} {line : Line}

def outline : Body → List Outline
  | .noop => []
  | .done => []
  | .reply code request =>
    [.field "error" (if code = 0 then "none" else OsError.describe (Fault.magnitude code)),
     .block ("req: " ++ request.kind.label) request.outline]
  | .query family => [.field "family" family.label]
  | .entity subject attributes =>
    subject.outline ++ Table.outline subject.schema.name attributes

theorem shown_iff : body.Shown lines ↔ lines = Outline.linesOf 1 body.outline := by
  cases body with
  | noop | done | query family =>
    constructor
    · rintro ⟨⟩
      rfl
    · rintro rfl
      constructor
  | reply code request =>
    obtain ⟨fields, hfields⟩ := Outline.exists_fields request.plain_outline
    have hlines : Outline.linesOf 1 (outline (.reply code request)) =
        .ofField 1 ("error", if code = 0 then "none" else OsError.describe (Fault.magnitude code)) ::
          .heading 1 ("req: " ++ request.kind.label) :: fields.map (.ofField 2) := by
      rw [← Outline.linesOf_fields, ← hfields]
      simp [outline, Outline.linesOf, Outline.lines, Line.ofField, Line.heading]
    rw [hlines]
    constructor
    · intro h
      cases h with
      | reply he h =>
        rw [hfields] at h
        rw [he, Outline.fields_inj h]
    · rintro rfl
      exact .reply rfl hfields
  | entity entity attributes =>
    obtain ⟨fields, hfields⟩ := Outline.exists_fields entity.plain_outline
    have hlines : Outline.linesOf 1 (outline (.entity entity attributes)) =
        fields.map (.ofField 1) ++
          Outline.linesOf 1 (Attribute.outlineSlots entity.schema.name 0 attributes) := by
      rw [outline, Outline.linesOf_append, hfields, Outline.linesOf_fields, Table.outline]
    rw [hlines]
    constructor
    · intro h
      cases h with
      | entity h ha =>
        rw [hfields] at h
        rw [Attribute.shownSlots_iff.1 ha, Outline.fields_inj h]
    · rintro rfl
      exact .entity hfields (Attribute.shownSlots_iff.2 rfl)

/-- A line behind those of the header is whole, or a text that is stored breaks it. -/
theorem Shown.of_mem (h : body.Shown lines) (hm : line ∈ lines) : 0 < line.depth ∧
    (OneLine line.text ∨ body.attributes.Breaks line) := by
  have hnames : OneLine "error" ∧ OneLine "req: " ∧ OneLine "family" ∧ OneLine "none" := by decide
  obtain ⟨herror, hreq, hfamily, hnone⟩ := hnames
  cases h with
  | noop | done => cases hm
  | @reply code request error fields he h =>
    rcases List.mem_cons.1 hm with rfl | hm
    · refine ⟨Nat.one_pos, .inl ((Line.oneLine_ofField herror).2 ?_)⟩
      rw [he]
      split
      · exact hnone
      · exact OneLine.describe _
    rcases List.mem_cons.1 hm with rfl | hm
    · exact ⟨Nat.one_pos, .inl (Line.oneLine_heading (by simp [hreq]))⟩
    · obtain ⟨hdepth, hone⟩ := Outline.of_mem_fields request.plain_outline h hm
      exact ⟨hdepth ▸ Nat.two_pos, .inl hone⟩
  | query family =>
    obtain rfl := List.mem_singleton.1 hm
    exact ⟨Nat.one_pos, .inl ((Line.oneLine_ofField hfamily).2 (OneLine.family family))⟩
  | @entity subject attributes fields lines h ha =>
    rcases List.mem_append.1 hm with hm | hm
    · obtain ⟨hdepth, hone⟩ := Outline.of_mem_fields subject.plain_outline h hm
      exact ⟨hdepth ▸ Nat.one_pos, .inl hone⟩
    · refine ⟨ha.level_le hm, ?_⟩
      by_cases hone : OneLine line.text
      · exact .inl hone
      · exact .inr (ha.broken (OneLine.entityName subject) hm hone)

end Body

namespace Message

variable {message : Message} {lines : List Line} {line : Line} {s : String}

theorem outline_eq (message : Message) : message.outline =
    .block message.kind.label (message.header.outline ++ message.body.outline) := by
  obtain ⟨header, body⟩ := message
  cases body <;> rfl

theorem shown_iff : message.Shown lines ↔ lines = Outline.lines 0 message.outline := by
  obtain ⟨header, body⟩ := message
  obtain ⟨fields, hfields⟩ := Outline.exists_fields header.plain_outline
  have hlines : Outline.lines 0 (outline ⟨header, body⟩) =
      .heading 0 header.kind.label :: (fields.map (.ofField 1) ++ Outline.linesOf 1 body.outline) := by
    rw [outline_eq, Outline.lines, Outline.linesOf_append, hfields, Outline.linesOf_fields]
    rfl
  rw [hlines]
  constructor
  · intro h
    cases h with
    | message hh hb =>
      rw [hfields] at hh
      rw [Body.shown_iff.1 hb, Outline.fields_inj hh]
  · rintro rfl
    exact .message hfields (Body.shown_iff.2 rfl)

theorem toList_text (message : Message) : message.text.toList =
    (Outline.lines 0 message.outline).flatMap fun line => line.chars ++ ['\n'] := by
  rw [text, Outline.render, Outline.toList_join_render, Outline.linesOf, Outline.linesOf_nil,
    List.append_nil]

theorem Shown.first (h : message.Shown lines) :
    lines.head? = some ⟨0, message.kind.label ++ ":"⟩ := by
  cases h with
  | message hh hb => rfl

/-- What the lines behind the first one are like. -/
theorem Shown.of_mem_tail (h : message.Shown lines) (hm : line ∈ lines.tail) : 0 < line.depth ∧
    (OneLine line.text ∨ message.body.attributes.Breaks line) := by
  cases h with
  | @message header body fields lines hh hb =>
    rcases List.mem_append.1 hm with hm | hm
    · obtain ⟨hdepth, hone⟩ := Outline.of_mem_fields header.plain_outline hh hm
      exact ⟨hdepth ▸ Nat.one_pos, .inl hone⟩
    · exact hb.of_mem hm

theorem Shown.broken (h : message.Shown lines) (hm : line ∈ lines) (hb : ¬OneLine line.text) :
    message.body.attributes.Breaks line := by
  have htail : line ∈ lines.tail := by
    cases h with
    | message hh hb' =>
      rcases List.mem_cons.1 hm with rfl | hm
      · exact absurd (Line.oneLine_heading (OneLine.kind _)) hb
      · exact hm
  exact (h.of_mem_tail htail).2.resolve_left hb

theorem Shown.exists_line_of_stored (h : message.Shown lines) {kind : Nat}
    (hs : Attribute.Stored kind (.value (.text s)) message.body.attributes) :
    ∃ level name, Line.ofField level (name, s) ∈ lines := by
  cases h with
  | message hh hb =>
    cases hb with
    | noop | done | reply he h | query family => exact absurd hs Attribute.not_stored_nil
    | entity h ha =>
      obtain ⟨level, name, hm⟩ := ha.exists_line_of_stored hs
      exact ⟨level, name, List.mem_cons_of_mem _ (List.mem_append_right _
        (List.mem_append_right _ hm))⟩

theorem Shown.oneLine_iff (h : message.Shown lines) :
    (∀ line ∈ lines, OneLine line.text) ↔
      ∀ kind s, Attribute.Stored kind (.value (.text s)) message.body.attributes → OneLine s := by
  constructor
  · intro hone kind s hs
    obtain ⟨level, name, hm⟩ := h.exists_line_of_stored hs
    exact (OneLine.append_iff.1 (hone _ hm)).2
  · intro hone line hm
    by_contra hb
    obtain ⟨kind, level, name, s, hs, hbroken, -⟩ := h.broken hm hb
    exact hbroken (hone kind s hs)

/-- Whatever a message says, its text is one line for its kind and one for each field and block
below it, as deep as it stands. A line is broken exactly where the text of an attribute is. -/
theorem text_outlined (message : Message) : ∃ lines, message.Outlined lines := by
  have hshown : message.Shown (Outline.lines 0 message.outline) := shown_iff.2 rfl
  have hpieces : message.text.toList.splitOn '\n' =
      (Outline.lines 0 message.outline).flatMap (fun line => line.chars.splitOn '\n') ++ [[]] := by
    rw [toList_text, Outline.splitOn_flatMap]
  refine ⟨Outline.lines 0 message.outline, ?_⟩
  constructor
  case shown_iff => exact fun others => shown_iff
  case first => exact hshown.first
  case indented => exact fun line hm => (hshown.of_mem_tail hm).1
  case pieces => exact hpieces
  case broken => exact fun line hm hb => hshown.broken hm hb
  case whole_iff =>
    rw [hpieces, List.append_left_inj, Outline.flatMap_splitOn_eq_iff, hshown.oneLine_iff]

/-- A link with an alias of two lines. -/
def aliasRecord : List UInt8 :=
  [44, 0, 0, 0, 16, 0, 0, 0, 0, 0, 0, 0, 0, 0, 0, 0] ++
    [0, 0, 4, 3, 1, 0, 0, 0, 73, 0, 0, 0, 0, 0, 0, 0] ++
    [12, 0, 20, 0, 117, 112, 10, 100, 111, 119, 110, 0]

/-- The second line of the alias is one of the text, and nothing indents it. -/
theorem text_brokenAlias : ∃ message, decode aliasRecord = .ok message ∧
    message.text = "RTM_NEWLINK:\n    len: 44\n    seq: 0\n    pid: 0\n    index: 1\n" ++
      "    family: UNSPEC\n    type: LOOPBACK\n    ifinfo flags: Admin Up | Loopback | Running\n" ++
      "    IFALIAS: up\ndown\n" ∧
    ∀ lines, message.Shown lines →
      message.text.toList.splitOn '\n' ≠ lines.map Line.chars ++ [[]] := by
  let message : Message :=
    ⟨⟨44, .newLink, 0, 0, 0, none⟩, .entity (.link ⟨.unspecified, 772, 1, 73, 0⟩)
      ((Table.empty 70).put 20 (.value (.text "up\ndown")))⟩
  have hm : decode aliasRecord = .ok message := by decide +kernel
  refine ⟨message, hm, by decide +kernel, ?_⟩
  intro lines h
  rw [shown_iff.1 h]
  decide +kernel

end Message

end RouteNetlink
