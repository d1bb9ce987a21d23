import RouteNetlink.Attribute.Decode
import RouteNetlink.Proofs.Outcome
import RouteNetlink.Proofs.Spelling

/-! Runs of attributes as tables. The run that spells a table decodes to it, and a table
decoded from any run holds only what came in it. -/
namespace RouteNetlink
namespace RunItem

/-- Header and payload of an attribute, and what follows it, are all in the run. -/
theorem length_le_of_split? {bs rest : List UInt8} {raw : UInt16 × List UInt8}
    (h : split? bs = some (raw, rest)) :
    headerSize + raw.2.length + rest.length ≤ bs.length := by
  unfold split? at h
  split at h
  · cases h
  · rename_i length kind tail hs
    obtain rfl := header.split?_eq_some_iff.1 hs
    have hw : (header.encode (length, kind)).length = headerSize := header.length_encode _
    dsimp only at h
    split at h
    · rename_i hr
      rw [reaches_iff] at hr
      cases h
      have := le_align4 (length.toNat - headerSize)
      simp only [List.length_append, List.length_take, List.length_drop, hw]
      omega
    · cases h

theorem all_of_split? {bs rest : List UInt8} {raw : UInt16 × List UInt8}
    (h : split? bs = some (raw, rest)) :
    all bs = .ok ⟨(raw.1 &&& kindMask).toNat, raw.2⟩ :: all rest := by
  have hr : reaches headerSize bs = true := by
    have := length_le_of_split? h
    rw [reaches_iff]
    omega
  rw [all, if_pos hr]
  split
  · rename_i hs
    obtain ⟨rfl, rfl⟩ := Prod.mk.inj (Option.some.inj (hs.symm.trans h))
    rfl
  · simp_all

theorem all_of_short {bs : List UInt8} (h : bs.length < headerSize) : all bs = [] := by
  have hr : ¬reaches headerSize bs = true := by
    rw [reaches_iff]
    omega
  rw [all, if_neg hr]

theorem all_of_split?_eq_none {bs : List UInt8} (h : split? bs = none)
    (hl : headerSize ≤ bs.length) :
    all bs = [.error (.truncated (max (declared bs) headerSize) bs.length)] := by
  rw [all, if_pos ((reaches_iff _ _).2 hl)]
  split
  · simp_all
  · rfl

def footprint : List (Except Fault RunItem) → Nat
  | [] => 0
  | .ok item :: items => headerSize + item.payload.length + footprint items
  | .error _ :: items => footprint items

theorem footprint_all (bs : List UInt8) : footprint (all bs) ≤ bs.length := by
  induction hn : bs.length using Nat.strongRecOn generalizing bs with
  | ind n ih =>
    rw [all]
    split
    · split
      · rename_i raw rest hs
        have hle := length_le_of_split? hs
        have := ih rest.length (by have : headerSize = 4 := rfl; omega) rest rfl
        simp only [footprint]
        omega
      · simp [footprint]
    · simp [footprint]

/-- A spelled attribute in front of anything is split off with its own payload. -/
theorem split?_header {payload : List UInt8} (hmax : payload.length ≤ Attribute.maxSize)
    (kind : Nat) (rest : List UInt8) :
    split? (Attribute.header kind payload.length ++ payload ++ padding payload.length ++ rest) =
      some ((UInt16.ofNat kind, payload), rest) := by
  have hm : payload.length ≤ 65531 := hmax
  have hs : headerSize = 4 := rfl
  have hl : (UInt16.ofNat (headerSize + payload.length)).toNat =
      headerSize + payload.length := by
    rw [UInt16.toNat_ofNat', Nat.mod_eq_of_lt (by omega)]
  have hle := le_align4 payload.length
  have htake : (payload ++ (padding payload.length ++ rest)).take payload.length = payload :=
    List.take_left' rfl
  have hdrop : (payload ++ (padding payload.length ++ rest)).drop (align4 payload.length) =
      rest := by
    rw [← List.append_assoc]
    exact List.drop_left' (by simp; omega)
  have hr : headerSize ≤ headerSize + payload.length ∧
      reaches payload.length (payload ++ (padding payload.length ++ rest)) = true := by
    rw [reaches_iff, List.length_append]
    omega
  simp only [split?, Attribute.header, List.append_assoc, Layout.split?_encode, hl,
    Nat.add_sub_cancel_left, if_pos hr, htake, hdrop]

theorem mask_eq_mod (code : UInt16) : (code &&& kindMask).toNat = code.toNat % 2 ^ 14 := by
  have hm : kindMask.toNat = 2 ^ 14 - 1 := rfl
  rw [UInt16.toNat_and, hm, Nat.and_two_pow_sub_one_eq_mod]

/-- Kinds below the flag bits survive the mask. -/
theorem mask_ofNat {kind : Nat} (h : kind < 2 ^ 14) :
    (UInt16.ofNat kind &&& kindMask).toNat = kind := by
  rw [mask_eq_mod, UInt16.toNat_ofNat', Nat.mod_eq_of_lt (by omega : kind < 2 ^ 16),
    Nat.mod_eq_of_lt h]

/-- The attributes that a table is spelled by, the first slot of which has the given kind. -/
def ofSlots (kind : Nat) : List (Option Attribute) → List RunItem
  | [] => []
  | none :: slots => ofSlots (kind + 1) slots
  | some a :: slots => ⟨kind, a.spelled⟩ :: ofSlots (kind + 1) slots

theorem all_spelledSlots {slots : List (Option Attribute)} {kind : Nat}
    (hf : Attribute.slotsFit slots = true) (hk : kind + slots.length ≤ 2 ^ 14) :
    all (Attribute.spelledSlots kind slots) = (ofSlots kind slots).map .ok := by
  induction slots generalizing kind with
  | nil => exact all_of_short (Nat.zero_lt_succ _)
  | cons slot slots ih =>
    rw [List.length_cons] at hk
    cases slot with
    | none => exact ih hf (by omega)
    | some a =>
      simp only [Attribute.slotsFit, Bool.and_eq_true, decide_eq_true_eq] at hf
      have hmax : a.spelled.length ≤ Attribute.maxSize := by simpa using hf.1.1
      have hs := split?_header hmax kind (Attribute.spelledSlots (kind + 1) slots)
      rw [a.length_spelled] at hs
      rw [Attribute.spelledSlots, all_of_split? hs, ih hf.2 (by omega),
        mask_ofNat (by omega : kind < 2 ^ 14)]
      rfl

end RunItem

namespace Table

variable {label : String} {decoders : Decoders}

theorem decodeItem_eq_ok_iff {item : RunItem} {a : Attribute} :
    decodeItem label decoders item = .ok a ↔
      ∃ decoder, decoders[item.kind]? = some decoder ∧ decoder item.payload = .ok a := by
  unfold decodeItem
  cases decoders[item.kind]? <;> simp

theorem decodeInto_eq_ok_iff {table result : Table} {item? : Except Fault RunItem} :
    decodeInto label decoders table item? = .ok result ↔
      ∃ item a, item? = .ok item ∧ decodeItem label decoders item = .ok a ∧
        result = table.put item.kind a := by
  unfold decodeInto
  constructor
  · intro h
    obtain ⟨item, hi, h⟩ := Outcome.bind_eq_ok_iff.1 h
    obtain ⟨a, ha, h⟩ := Outcome.bind_eq_ok_iff.1 h
    exact ⟨item, a, hi, ha, (Except.ok.inj h).symm⟩
  · rintro ⟨item, a, rfl, ha, rfl⟩
    simp only [Outcome.ok_bind, ha]
    rfl

/-- What holds of the empty table and survives each attribute that is stored holds of the
table that a run decodes to. -/
theorem decodeRun_invariant {motive : Table → Prop} {bs : List UInt8} {result : Table}
    (hempty : motive (empty decoders.length))
    (hput : ∀ (table : Table) (item : RunItem) (a : Attribute), .ok item ∈ RunItem.all bs →
      motive table → decodeItem label decoders item = .ok a → motive (table.put item.kind a))
    (h : decodeRun label decoders bs = .ok result) : motive result := by
  unfold decodeRun at h
  generalize empty decoders.length = table at h hempty
  generalize RunItem.all bs = items at h hput
  induction items generalizing table with
  | nil =>
    cases h
    exact hempty
  | cons item? items ih =>
    rw [List.foldlM_cons] at h
    obtain ⟨next, hn, h⟩ := Outcome.bind_eq_ok_iff.1 h
    obtain ⟨item, a, rfl, ha, rfl⟩ := decodeInto_eq_ok_iff.1 hn
    have hnext : motive (table.put item.kind a) := hput table item a List.mem_cons_self hempty ha
    exact ih _ hnext h fun table item a hi => hput table item a (List.mem_cons_of_mem _ hi)

theorem size_put_le (table : Table) (kind : Nat) (a : Attribute) :
    (table.put kind a).size ≤ table.size + (RunItem.headerSize + align4 a.size) := by
  unfold put size
  induction table generalizing kind with
  | nil => simp [Attribute.sizeOfSlots]
  | cons slot slots ih =>
    cases kind with
    | zero => cases slot <;> simp [Attribute.sizeOfSlots] <;> omega
    | succ kind =>
      have := ih kind
      cases slot <;> simp [Attribute.sizeOfSlots] at * <;> omega

@[simp] theorem size_empty (slots : Nat) : (empty slots).size = 0 := by
  unfold empty size
  induction slots with
  | zero => rfl
  | succ slots ih => exact ih

/-- Storing the attributes that spell a table, one after another, fills in its slots from the
front. -/
theorem foldlM_ofSlots {slots : List (Option Attribute)} (front : Table)
    (h : ∀ (i : Nat) (a : Attribute), slots[i]? = some (some a) →
      ∃ decoder, decoders[front.length + i]? = some decoder ∧ decoder a.spelled = .ok a) :
    ((RunItem.ofSlots front.length slots).map .ok).foldlM (decodeInto label decoders)
      (front ++ empty slots.length) = .ok (front ++ slots) := by
  induction slots generalizing front with
  | nil => rfl
  | cons slot slots ih =>
    have hnext : ((RunItem.ofSlots (front.length + 1) slots).map .ok).foldlM
        (decodeInto label decoders) (front ++ slot :: empty slots.length) =
          .ok (front ++ slot :: slots) := by
      have := ih (front ++ [slot]) fun i a hi => by
        have := h (i + 1) a hi
        rw [List.length_append, List.length_singleton, Nat.add_right_comm]
        exact this
      simpa using this
    cases slot with
    | none => exact hnext
    | some a =>
      have hput : (front ++ empty (slots.length + 1)).put front.length a =
          front ++ some a :: empty slots.length := by
        simp [put, empty, List.replicate_succ]
      have hitem : decodeInto label decoders (front ++ empty (slots.length + 1))
          (.ok ⟨front.length, a.spelled⟩) = .ok (front ++ some a :: empty slots.length) := by
        rw [decodeInto_eq_ok_iff]
        exact ⟨_, a, rfl, decodeItem_eq_ok_iff.2 (h 0 a rfl), hput.symm⟩
      rw [RunItem.ofSlots, List.map_cons, List.foldlM_cons, List.length_cons, hitem]
      exact hnext

/-- The run that spells a table decodes to the table. -/
theorem decodeRun_spelled {table : Table} (hl : table.length = decoders.length)
    (hn : decoders.length ≤ 2 ^ 14) (hf : table.fits = true)
    (h : ∀ (kind : Nat) (a : Attribute), table.at? kind = some a →
      ∃ decoder, decoders[kind]? = some decoder ∧ decoder a.spelled = .ok a) :
    decodeRun label decoders table.spelled = .ok table := by
  have hall : RunItem.all table.spelled = (RunItem.ofSlots 0 table).map .ok :=
    RunItem.all_spelledSlots hf (by omega)
  have hslots : ∀ (i : Nat) (a : Attribute), table[i]? = some (some a) →
      ∃ decoder, decoders[([] : Table).length + i]? = some decoder ∧
        decoder a.spelled = .ok a := by
    intro i a hi
    rw [List.length_nil, Nat.zero_add]
    exact h i a (Option.join_eq_some_iff.2 hi)
  have hfold : ((RunItem.ofSlots 0 table).map .ok).foldlM (decodeInto label decoders)
      (empty table.length) = .ok table := foldlM_ofSlots [] hslots
  rw [decodeRun, hall, ← hl]
  exact hfold

theorem size_le_of_foldlM {items : List (Except Fault RunItem)} {table result : Table}
    (h : ∀ (item : RunItem) (a : Attribute), .ok item ∈ items →
      decodeItem label decoders item = .ok a → a.size ≤ 3 * item.payload.length + 1)
    (hr : items.foldlM (decodeInto label decoders) table = .ok result) :
    result.size ≤ table.size + 3 * RunItem.footprint items := by
  induction items generalizing table with
  | nil =>
    cases hr
    exact Nat.le_add_right _ _
  | cons item? items ih =>
    rw [List.foldlM_cons] at hr
    obtain ⟨next, hn, hr⟩ := Outcome.bind_eq_ok_iff.1 hr
    obtain ⟨item, a, rfl, ha, rfl⟩ := decodeInto_eq_ok_iff.1 hn
    have hrest := ih (fun item a hi => h item a (List.mem_cons_of_mem _ hi)) hr
    have hput := size_put_le table item.kind a
    have hsize := h item a List.mem_cons_self ha
    -- The header, one more byte and the padding are eight bytes at most, less than three headers.
    have hpad := align4_lt a.size
    have hw : RunItem.headerSize = 4 := rfl
    simp only [RunItem.footprint]
    omega

/-- Where attributes grow to three times their payload and one byte at most, a table takes at
most three times the run that it came from: the growth of an attribute is paid by its
header. -/
theorem size_le_of_decodeRun {bs : List UInt8} {result : Table}
    (h : ∀ (item : RunItem) (a : Attribute), .ok item ∈ RunItem.all bs →
      decodeItem label decoders item = .ok a → a.size ≤ 3 * item.payload.length + 1)
    (hr : decodeRun label decoders bs = .ok result) : result.size ≤ 3 * bs.length := by
  have hfold := size_le_of_foldlM h hr
  have := RunItem.footprint_all bs
  rw [size_empty] at hfold
  omega

end Table
end RouteNetlink
