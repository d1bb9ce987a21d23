import Mathlib.Data.List.Nodup
import Mathlib.Data.Nat.Bitwise
import RouteNetlink.Proofs.Digits
import RouteNetlink.Vocabulary.Flags

/-! Flag words told back from their text. The separator stands in no name and no number, so a text
falls into its parts in one way, and the parts say which bits are set. -/
namespace RouteNetlink

section Separated

variable {α : Type} {mark : α} {left right : List α}

/-- What stands in front of the first mark, and what behind it. -/
theorem eq_of_append_mark {as bs cs ds : List α} (ha : mark ∉ as) (hb : mark ∉ bs)
    (h : as ++ mark :: cs = bs ++ mark :: ds) : as = bs ∧ cs = ds := by
  induction as generalizing bs with
  | nil =>
    cases bs with
    | nil => exact ⟨rfl, (List.cons.inj h).2⟩
    | cons b bs => exact absurd (by simp [(List.cons.inj h).1]) hb
  | cons a as ih =>
    cases bs with
    | nil => exact absurd (by simp [← (List.cons.inj h).1]) ha
    | cons b bs =>
      obtain ⟨rfl, hrest⟩ := List.cons.inj h
      obtain ⟨rfl, hbehind⟩ := ih (List.not_mem_of_not_mem_cons ha)
        (List.not_mem_of_not_mem_cons hb) hrest
      exact ⟨rfl, hbehind⟩

/-- A list that was put together with a separator falls apart in one way, if some mark of the
separator stands in none of the parts. -/
theorem eq_of_intercalate_eq (hl : mark ∉ left) {parts others : List (List α)}
    (hp : ∀ part ∈ parts, mark ∉ part) (ho : ∀ part ∈ others, mark ∉ part)
    (hparts : parts ≠ []) (hothers : others ≠ [])
    (h : (left ++ mark :: right).intercalate parts = (left ++ mark :: right).intercalate others) :
    parts = others := by
  induction parts generalizing others with
  | nil => exact absurd rfl hparts
  | cons part parts ih =>
    obtain ⟨other, others, rfl⟩ := List.exists_cons_of_ne_nil hothers
    obtain ⟨hpart, hp⟩ := List.forall_mem_cons.1 hp
    obtain ⟨hother, ho⟩ := List.forall_mem_cons.1 ho
    cases parts with
    | nil =>
      cases others with
      | nil => simpa using h
      | cons next others =>
        rw [List.intercalate_singleton, List.intercalate_cons_cons] at h
        exact absurd (by simp [h]) hpart
    | cons following parts =>
      cases others with
      | nil =>
        rw [List.intercalate_singleton, List.intercalate_cons_cons] at h
        exact absurd (by simp [← h]) hother
      | cons next others =>
        rw [List.intercalate_cons_cons, List.intercalate_cons_cons] at h
        have hcut : (part ++ left) ++ mark ::
              (right ++ (left ++ mark :: right).intercalate (following :: parts)) =
            (other ++ left) ++ mark ::
              (right ++ (left ++ mark :: right).intercalate (next :: others)) := by
          simpa only [List.append_assoc, List.cons_append] using h
        obtain ⟨hfirst, hrest⟩ := eq_of_append_mark (by simp [hpart, hl]) (by simp [hother, hl]) hcut
        rw [List.append_cancel_right hfirst, ih hp ho (by simp) (by simp)
          (List.append_cancel_left hrest)]

end Separated

namespace FlagNames

/-- Each entry names one bit, by a name that cannot be taken for another one, for a number or for
the text of the empty word. -/
structure Legible (names : FlagNames) : Prop where
  single : ∀ e ∈ names.entries, ∃ i < 64, e.1.toNat = 2 ^ i
  masks : (names.entries.map Prod.fst).Nodup
  words : (names.entries.map Prod.snd).Nodup
  told : ∀ e ∈ names.entries,
    '|' ∉ e.2.toList ∧ e.2 ≠ names.empty ∧ ¬"0x".toList <+: e.2.toList
  blank : '|' ∉ names.empty.toList ∧ ¬"0x".toList <+: names.empty.toList

/-- How a word is shown: the names of its set bits in the order of the table, and behind them the
set bits without a name, all in one number. The word without bits has a text that no other word
has. -/
structure Shows (names : FlagNames) (bits : UInt64) (text : String) : Prop where
  empty_iff : text = names.empty ↔ bits = 0
  parts : bits ≠ 0 → ∃ rest : UInt64,
    (∀ i, rest.toNat.testBit i = true ↔
      bits.toNat.testBit i = true ∧ ∀ e ∈ names.entries, e.1.toNat.testBit i = false) ∧
    text = " | ".intercalate
      ((names.entries.filter fun e => bits &&& e.1 ≠ 0).map Prod.snd ++
        if rest = 0 then [] else ["0x" ++ String.ofList (Nat.toDigits 16 rest.toNat)])

variable {names : FlagNames} {bits others rest mask : UInt64} {i : Nat}

theorem testBit_clear :
    (rest &&& ~~~mask).toNat.testBit i = (rest.toNat.testBit i && !mask.toNat.testBit i) := by
  have h : (rest.toBitVec &&& ~~~mask.toBitVec).getLsbD i =
      (rest.toBitVec.getLsbD i && !mask.toBitVec.getLsbD i) := by
    rw [BitVec.getLsbD_and, BitVec.getLsbD_not]
    by_cases hi : i < 64
    · rw [decide_eq_true hi, Bool.true_and]
    · rw [BitVec.getLsbD_of_ge rest.toBitVec i (Nat.not_lt.1 hi), Bool.false_and, Bool.false_and]
  exact h

/-- Clearing the bits of entries leaves those that none of them has. -/
theorem testBit_foldl_clear (entries : List (UInt64 × String)) :
    (entries.foldl (fun rest e => rest &&& ~~~e.1) rest).toNat.testBit i = true ↔
      rest.toNat.testBit i = true ∧ ∀ e ∈ entries, e.1.toNat.testBit i = false := by
  induction entries generalizing rest with
  | nil => simp
  | cons e entries ih =>
    rw [List.foldl_cons, ih, testBit_clear, List.forall_mem_cons, Bool.and_eq_true,
      Bool.not_eq_true', and_assoc]

theorem testBit_of_held {e : UInt64 × String} (he : e ∈ names.held bits)
    (hi : e.1.toNat.testBit i = true) : bits.toNat.testBit i = true := by
  have hsub : bits &&& e.1 = e.1 := (by simpa [held] using he : _ ∧ _ ∧ _).2.1
  rw [← hsub, UInt64.toNat_and, Nat.testBit_and, Bool.and_eq_true] at hi
  exact hi.1

/-- A set bit is named by an entry that is held, or it is left. -/
theorem testBit_iff (names : FlagNames) (bits : UInt64) (i : Nat) :
    bits.toNat.testBit i = true ↔
      (∃ e ∈ names.held bits, e.1.toNat.testBit i = true) ∨
        (names.unnamed bits).toNat.testBit i = true := by
  rw [unnamed, testBit_foldl_clear]
  constructor
  · intro h
    by_cases hex : ∃ e ∈ names.held bits, e.1.toNat.testBit i = true
    · exact .inl hex
    · exact .inr ⟨h, fun e he => Bool.eq_false_iff.2 fun hi => hex ⟨e, he, hi⟩⟩
  · rintro (⟨e, he, hi⟩ | ⟨h, -⟩)
    · exact testBit_of_held he hi
    · exact h

/-- A word is made up of what it holds and what is left. -/
theorem eq_of_held_unnamed (hh : names.held bits = names.held others)
    (hu : names.unnamed bits = names.unnamed others) : bits = others := by
  apply UInt64.toNat_inj.1
  apply Nat.eq_of_testBit_eq
  intro i
  rw [Bool.eq_iff_iff, testBit_iff names bits, testBit_iff names others, hh, hu]

/-- A mask of one bit is held as soon as it meets the word. -/
theorem and_eq_self_iff (h : mask.toNat = 2 ^ i) :
    bits &&& mask = mask ∧ mask ≠ 0 ↔ bits &&& mask ≠ 0 := by
  have hand : (bits &&& mask).toNat = (bits.toNat.testBit i).toNat * 2 ^ i := by
    rw [UInt64.toNat_and, h, Nat.and_two_pow]
  have hpos : 0 < 2 ^ i := Nat.two_pow_pos i
  have hmask : mask ≠ 0 := by
    rintro rfl
    exact absurd h.symm (Nat.ne_of_gt hpos)
  cases hbit : bits.toNat.testBit i with
  | true =>
    have hself : bits &&& mask = mask := by
      apply UInt64.toNat_inj.1
      rw [hand, hbit, h, Bool.toNat_true, Nat.one_mul]
    rw [hself]
    exact ⟨fun hb => hb.2, fun hb => ⟨rfl, hb⟩⟩
  | false =>
    have hzero : bits &&& mask = 0 := by
      apply UInt64.toNat_inj.1
      rw [hand, hbit, Bool.toNat_false, Nat.zero_mul]
      rfl
    rw [hzero]
    exact ⟨fun hb => absurd hb.1.symm hb.2, fun hb => absurd rfl hb⟩

theorem Legible.held_eq (h : names.Legible) (bits : UInt64) :
    names.held bits = names.entries.filter fun e => bits &&& e.1 ≠ 0 := by
  apply List.filter_congr
  intro e he
  obtain ⟨i, -, hi⟩ := h.single e he
  exact decide_eq_decide.2 (and_eq_self_iff hi)

theorem Legible.testBit_unnamed (h : names.Legible) :
    (names.unnamed bits).toNat.testBit i = true ↔
      bits.toNat.testBit i = true ∧ ∀ e ∈ names.entries, e.1.toNat.testBit i = false := by
  rw [unnamed, testBit_foldl_clear]
  refine and_congr_right fun hb => ⟨fun hheld e he => ?_, fun hall e he => ?_⟩
  · by_contra hbit
    rw [Bool.not_eq_false] at hbit
    have hmet : bits &&& e.1 ≠ 0 := by
      intro hzero
      have hboth : (bits &&& e.1).toNat.testBit i = true := by
        rw [UInt64.toNat_and, Nat.testBit_and, hb, hbit, Bool.and_self]
      rw [hzero] at hboth
      simp at hboth
    have hmem : e ∈ names.held bits := by
      rw [h.held_eq, List.mem_filter]
      exact ⟨he, decide_eq_true hmet⟩
    rw [hheld e hmem] at hbit
    cases hbit
  · exact hall e (List.mem_of_mem_filter he)

theorem parts_ne_nil (hb : bits ≠ 0) : names.parts bits ≠ [] := by
  intro hnil
  obtain ⟨hheld, hrest⟩ := List.append_eq_nil_iff.1 hnil
  have hunnamed : names.unnamed bits = bits := by
    rw [unnamed, List.map_eq_nil_iff.1 hheld]
    rfl
  rw [hunnamed, if_neg hb] at hrest
  cases hrest

def isNumber (part : String) : Bool := "0x".toList.isPrefixOf part.toList

theorem isNumber_number (n : Nat) : isNumber (Hex.number n) = true := by
  simp [isNumber, Hex.toList_number]

theorem Legible.not_isNumber (h : names.Legible) {e : UInt64 × String}
    (he : e ∈ names.held bits) : isNumber e.2 = false := by
  have htold := (h.told e (List.mem_of_mem_filter he)).2.2
  rw [← List.isPrefixOf_iff_prefix] at htold
  exact Bool.eq_false_iff.2 htold

theorem Legible.bar_notMem (h : names.Legible) {part : String} (hp : part ∈ names.parts bits) :
    '|' ∉ part.toList := by
  rcases List.mem_append.1 hp with hp | hp
  · obtain ⟨e, he, rfl⟩ := List.mem_map.1 hp
    exact (h.told e (List.mem_of_mem_filter he)).1
  · split at hp
    · cases hp
    · obtain rfl := List.mem_singleton.1 hp
      have hdigits : '|' ∉ Nat.toDigits 16 (names.unnamed bits).toNat :=
        Hex.notMem_toDigits (by decide) (by decide) (by decide) _
      simp [Hex.toList_number, hdigits]

theorem Legible.part_ne_empty (h : names.Legible) {part : String}
    (hp : part ∈ names.parts bits) : part ≠ names.empty := by
  rcases List.mem_append.1 hp with hp | hp
  · obtain ⟨e, he, rfl⟩ := List.mem_map.1 hp
    exact (h.told e (List.mem_of_mem_filter he)).2.1
  · split at hp
    · cases hp
    · obtain rfl := List.mem_singleton.1 hp
      intro heq
      have hprefix := isNumber_number (names.unnamed bits).toNat
      rw [heq, isNumber, List.isPrefixOf_iff_prefix] at hprefix
      exact h.blank.2 hprefix

theorem Legible.text_eq_empty_iff (h : names.Legible) :
    names.text bits = names.empty ↔ bits = 0 := by
  refine ⟨fun htext => ?_, fun hb => if_pos hb⟩
  by_contra hb
  rw [text, if_neg hb] at htext
  have hne : names.parts bits ≠ [] := parts_ne_nil hb
  obtain ⟨part, parts, hparts⟩ := List.exists_cons_of_ne_nil hne
  cases parts with
  | nil =>
    have hmem : part ∈ names.parts bits := hparts ▸ List.mem_singleton_self part
    rw [hparts, String.intercalate_singleton] at htext
    exact h.part_ne_empty hmem htext
  | cons next parts =>
    rw [hparts, String.intercalate_cons_cons] at htext
    have hbar : '|' ∈ names.empty.toList := by
      rw [← htext]
      simp
    exact h.blank.1 hbar

/-- The parts of a text are told back from it. -/
theorem Legible.parts_inj (h : names.Legible) (hb : bits ≠ 0) (ho : others ≠ 0)
    (htext : names.text bits = names.text others) : names.parts bits = names.parts others := by
  rw [text, text, if_neg hb, if_neg ho, ← String.toList_inj, String.toList_intercalate,
    String.toList_intercalate] at htext
  have hbar {word : UInt64} : ∀ part ∈ (names.parts word).map String.toList, '|' ∉ part := by
    intro part hp
    obtain ⟨shown, hshown, rfl⟩ := List.mem_map.1 hp
    exact h.bar_notMem hshown
  have hseparator : " | ".toList = [' '] ++ '|' :: [' '] := by decide
  have hne {word : UInt64} (hw : word ≠ 0) : (names.parts word).map String.toList ≠ [] := by
    simpa using parts_ne_nil hw
  rw [hseparator] at htext
  have hchars := eq_of_intercalate_eq (show '|' ∉ [' '] by decide) hbar hbar (hne hb) (hne ho) htext
  exact List.map_injective_iff.2 (fun _ _ => String.toList_inj.1) hchars

theorem Legible.held_eq_of_map (h : names.Legible)
    (hmap : (names.held bits).map Prod.snd = (names.held others).map Prod.snd) :
    names.held bits = names.held others := by
  have hinj := List.inj_on_of_nodup_map h.words
  have hsub {word other : UInt64}
      (hmap : (names.held word).map Prod.snd = (names.held other).map Prod.snd) :
      ∀ e ∈ names.held word, e ∈ names.held other := by
    intro e he
    have hword : e.2 ∈ (names.held other).map Prod.snd := hmap ▸ List.mem_map_of_mem he
    obtain ⟨e', he', heq⟩ := List.mem_map.1 hword
    rwa [← hinj (List.mem_of_mem_filter he') (List.mem_of_mem_filter he) heq]
  apply List.filter_congr
  intro e he
  have hiff : e ∈ names.held bits ↔ e ∈ names.held others := ⟨hsub hmap e, hsub hmap.symm e⟩
  simp only [held, List.mem_filter, he, true_and] at hiff
  exact Bool.eq_iff_iff.2 hiff

/-- The parts fall into names and a number, which the front of each part tells apart. -/
theorem Legible.filter_parts (h : names.Legible) (bits : UInt64) :
    (names.parts bits).filter (fun part => !isNumber part) = (names.held bits).map Prod.snd ∧
      (names.parts bits).filter isNumber =
        if names.unnamed bits = 0 then [] else [Hex.number (names.unnamed bits).toNat] := by
  have hnames : ∀ part ∈ (names.held bits).map Prod.snd, isNumber part = false := by
    intro part hp
    obtain ⟨e, he, rfl⟩ := List.mem_map.1 hp
    exact h.not_isNumber he
  have hnumber : ∀ part ∈ (if names.unnamed bits = 0 then []
      else [Hex.number (names.unnamed bits).toNat]), isNumber part = true := by
    intro part hp
    split at hp
    · cases hp
    · obtain rfl := List.mem_singleton.1 hp
      exact isNumber_number _
  rw [parts, List.filter_append, List.filter_append]
  constructor
  · rw [List.filter_eq_self.2 fun part hp => by rw [hnames part hp]; rfl,
      List.filter_eq_nil_iff.2 fun part hp => by rw [hnumber part hp]; simp, List.append_nil]
  · rw [List.filter_eq_nil_iff.2 fun part hp => by rw [hnames part hp]; simp,
      List.filter_eq_self.2 hnumber, List.nil_append]

theorem unnamed_eq_of_number
    (h : (if names.unnamed bits = 0 then [] else [Hex.number (names.unnamed bits).toNat]) =
      if names.unnamed others = 0 then [] else [Hex.number (names.unnamed others).toNat]) :
    names.unnamed bits = names.unnamed others := by
  split at h <;> split at h
  · rename_i hb ho
    rw [hb, ho]
  · cases h
  · cases h
  · exact UInt64.toNat_inj.1 (Hex.number_inj (List.cons.inj h).1)

/-- Two different words never have the same text. -/
theorem Legible.text_inj (h : names.Legible) (htext : names.text bits = names.text others) :
    bits = others := by
  by_cases hb : bits = 0
  · subst hb
    exact (h.text_eq_empty_iff.1 (htext.symm.trans (h.text_eq_empty_iff.2 rfl))).symm
  by_cases ho : others = 0
  · subst ho
    exact h.text_eq_empty_iff.1 (htext.trans (h.text_eq_empty_iff.2 rfl))
  have hparts := h.parts_inj hb ho htext
  obtain ⟨hnames, hnumber⟩ := h.filter_parts bits
  obtain ⟨honames, honumber⟩ := h.filter_parts others
  rw [← hparts] at honames honumber
  exact eq_of_held_unnamed (h.held_eq_of_map (hnames.symm.trans honames))
    (unnamed_eq_of_number (hnumber.symm.trans honumber))

theorem Legible.shows (h : names.Legible) (bits : UInt64) : names.Shows bits (names.text bits) where
  empty_iff := h.text_eq_empty_iff
  parts hb := by
    refine ⟨names.unnamed bits, fun i => h.testBit_unnamed, ?_⟩
    rw [text, if_neg hb, FlagNames.parts, h.held_eq]
    rfl

/-- The tables for headers, bodies and attributes, with what each shows where no bit is set. -/
def tables : List (FlagNames × String) :=
  [(header, "0"), (link, "0"), (address, "0"), (route, "0"), (neighborState, "NONE"),
   (neighbor, "0"), (inet6Link, "0")]

instance (names : FlagNames) : Decidable names.Legible :=
  decidable_of_iff
    ((∀ e ∈ names.entries, ∃ i < 64, e.1.toNat = 2 ^ i) ∧
      (names.entries.map Prod.fst).Nodup ∧ (names.entries.map Prod.snd).Nodup ∧
      (∀ e ∈ names.entries,
        '|' ∉ e.2.toList ∧ e.2 ≠ names.empty ∧ ¬"0x".toList <+: e.2.toList) ∧
      '|' ∉ names.empty.toList ∧ ¬"0x".toList <+: names.empty.toList)
    ⟨fun ⟨hs, hm, hw, ht, hb⟩ => ⟨hs, hm, hw, ht, hb⟩,
      fun h => ⟨h.single, h.masks, h.words, h.told, h.blank⟩⟩

theorem legible_tables : ∀ entry ∈ tables, entry.1.Legible ∧ entry.1.empty = entry.2 := by
  decide +kernel

/-- Flag words are shown without loss, by every table whose names can be told apart. The tables
for headers, bodies and attributes are such. -/
theorem text_lossless :
    (∀ names : FlagNames, names.Legible →
      (∀ bits, names.Shows bits (names.text bits)) ∧ Function.Injective names.text) ∧
      ∀ entry ∈ tables, entry.1.Legible ∧ entry.1.empty = entry.2 :=
  ⟨fun _ h => ⟨h.shows, fun _ _ => h.text_inj⟩, legible_tables⟩

/-- Two states and a bit without a name. -/
theorem text_lossless_neighborState :
    neighborState.Legible ∧ neighborState.text 0x182 = "REACHABLE | PERMANENT | 0x100" ∧
      neighborState.Shows 0x182 (neighborState.text 0x182) ∧
      neighborState.text 0 = "NONE" ∧ Function.Injective neighborState.text := by
  have h : neighborState.Legible := (text_lossless.2 (neighborState, "NONE") (by simp [tables])).1
  exact ⟨h, by decide +kernel, (text_lossless.1 neighborState h).1 _, rfl,
    (text_lossless.1 neighborState h).2⟩

end FlagNames
end RouteNetlink
