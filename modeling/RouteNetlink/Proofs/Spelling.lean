import RouteNetlink.Attribute.Encode
import RouteNetlink.Proofs.Payload

/-! The bytes that spell an attribute. Encoding into a buffer of the right size writes
these, whatever the buffer held, unless an attribute in a table is longer than its length
field can say. -/
namespace RouteNetlink

/-- A filling that stopped at an attribute that is too long. -/
def Filled.Overlong (filled : Filled) : Prop :=
  ∃ kind size, filled.fault? = some (.invalidAttribute (.tooLong kind size))

namespace Attribute

section Induction

variable {motive : Attribute → Prop}

mutual

/-- A property of all attributes follows from tables inheriting it from what they hold. -/
@[elab_as_elim, induction_eliminator]
theorem induct (value : ∀ v, motive (.value v))
    (table : ∀ nest slots, (∀ a, some a ∈ slots → motive a) → motive (.table nest slots)) :
    (a : Attribute) → motive a
  | .value v => value v
  | .table nest slots => table nest slots (inductSlots value table slots)

theorem inductSlots (value : ∀ v, motive (.value v))
    (table : ∀ nest slots, (∀ a, some a ∈ slots → motive a) → motive (.table nest slots)) :
    (slots : List (Option Attribute)) → ∀ a, some a ∈ slots → motive a
  | [], a, h => absurd h List.not_mem_nil
  | none :: slots, a, h => inductSlots value table slots a (by simpa using h)
  | some b :: slots, a, h =>
    (List.mem_cons.1 h).elim (fun he => Option.some.inj he ▸ induct value table b)
      (inductSlots value table slots a)

end

end Induction

mutual

/-- The encoding of an attribute, without a buffer. -/
def spelled : Attribute → List UInt8
  | value v => v.encode
  | table _ slots => spelledSlots 0 slots

def spelledSlots (kind : Nat) : List (Option Attribute) → List UInt8
  | [] => []
  | none :: slots => spelledSlots (kind + 1) slots
  | some a :: slots =>
    header kind (size a) ++ spelled a ++ padding (size a) ++ spelledSlots (kind + 1) slots

end

mutual

/-- Whether each attribute in a table, at any depth, has a size that a length field holds. -/
def fits : Attribute → Bool
  | value _ => true
  | table _ slots => slotsFit slots

def slotsFit : List (Option Attribute) → Bool
  | [] => true
  | none :: slots => slotsFit slots
  | some a :: slots => size a ≤ maxSize && fits a && slotsFit slots

end

theorem slotsFit_iff {slots : List (Option Attribute)} :
    slotsFit slots = true ↔ ∀ a, some a ∈ slots → size a ≤ maxSize ∧ fits a = true := by
  induction slots with
  | nil => simp [slotsFit]
  | cons slot slots ih =>
    cases slot with
    | none => simp [slotsFit, ih]
    | some a =>
      simp only [slotsFit, Bool.and_eq_true, decide_eq_true_eq, ih, List.mem_cons,
        Option.some.injEq]
      constructor
      · rintro ⟨ha, hs⟩ b (rfl | hb)
        · exact ha
        · exact hs b hb
      · intro h
        exact ⟨h a (.inl rfl), fun b hb => h b (.inr hb)⟩

@[simp] theorem length_header (kind size : Nat) :
    (header kind size).length = RunItem.headerSize :=
  RunItem.header.length_encode _

theorem length_spelledSlots {slots : List (Option Attribute)} (kind : Nat)
    (h : ∀ a, some a ∈ slots → (spelled a).length = size a) :
    (spelledSlots kind slots).length = sizeOfSlots slots := by
  induction slots generalizing kind with
  | nil => rfl
  | cons slot slots ih =>
    have hs := ih (kind + 1) fun a ha => h a (List.mem_cons_of_mem _ ha)
    cases slot with
    | none => exact hs
    | some a =>
      have ha := h a List.mem_cons_self
      have hle := le_align4 (size a)
      simp only [spelledSlots, sizeOfSlots, List.length_append, length_header, length_padding, ha,
        hs]
      omega

@[simp] theorem length_spelled (a : Attribute) : (spelled a).length = size a := by
  induction a with
  | value v => exact v.length_encode
  | table nest slots ih => exact length_spelledSlots 0 ih

/-- Slots that fit are written over whatever the buffer held. -/
theorem encodeSlots_of_fit {slots : List (Option Attribute)} {kind : Nat} {buffer : List UInt8}
    (ih : ∀ a, some a ∈ slots → ∀ buffer : List UInt8, buffer.length = size a → fits a = true →
      encodeInto buffer a = ⟨spelled a, none⟩)
    (hl : buffer.length = sizeOfSlots slots) (hf : slotsFit slots = true) :
    encodeSlots kind buffer slots = ⟨spelledSlots kind slots, none⟩ := by
  induction slots generalizing kind buffer with
  | nil =>
    obtain rfl := List.eq_nil_of_length_eq_zero hl
    rfl
  | cons slot slots ihs =>
    have ih' := fun a ha => ih a (List.mem_cons_of_mem _ ha)
    cases slot with
    | none => exact ihs ih' hl hf
    | some a =>
      simp only [slotsFit, Bool.and_eq_true, decide_eq_true_eq] at hf
      obtain ⟨⟨hmax, hfit⟩, hrest⟩ := hf
      simp only [sizeOfSlots] at hl
      have hle := le_align4 (size a)
      have hvalue := ih a List.mem_cons_self
        ((buffer.drop RunItem.headerSize).take (size a)) (by simp; omega) hfit
      have hslots : encodeSlots (kind + 1)
          (buffer.drop (RunItem.headerSize + align4 (size a))) slots =
            ⟨spelledSlots (kind + 1) slots, none⟩ := ihs ih' (by simp; omega) hrest
      simp only [encodeSlots, if_neg (Nat.not_lt.2 hmax), hvalue, hslots, spelledSlots]

/-- An attribute that fits is written over whatever the buffer held. -/
theorem encodeInto_of_fits {a : Attribute} {buffer : List UInt8} (hl : buffer.length = size a)
    (hf : fits a = true) : encodeInto buffer a = ⟨spelled a, none⟩ := by
  induction a generalizing buffer with
  | value v => exact if_pos hl
  | table nest slots ih =>
    have hs : encodeSlots 0 buffer slots = ⟨spelledSlots 0 slots, none⟩ :=
      encodeSlots_of_fit (fun a ha _ hb h => ih a ha hb h) hl hf
    rw [encodeInto, hs]
    exact if_pos hl

theorem encodeSlots_overlong {slots : List (Option Attribute)} {kind : Nat}
    {buffer : List UInt8}
    (ih : ∀ a, some a ∈ slots → ∀ buffer : List UInt8, buffer.length = size a → fits a = false →
      (encodeInto buffer a).Overlong)
    (hl : buffer.length = sizeOfSlots slots) (hf : slotsFit slots = false) :
    (encodeSlots kind buffer slots).Overlong := by
  induction slots generalizing kind buffer with
  | nil => simp [slotsFit] at hf
  | cons slot slots ihs =>
    have ih' := fun a ha => ih a (List.mem_cons_of_mem _ ha)
    cases slot with
    | none => exact ihs ih' hl hf
    | some a =>
      simp only [sizeOfSlots] at hl
      have hle := le_align4 (size a)
      have hvalue : ((buffer.drop RunItem.headerSize).take (size a)).length = size a := by
        simp
        omega
      by_cases hmax : maxSize < size a
      · exact ⟨kind, size a, by simp only [encodeSlots, if_pos hmax]⟩
      · cases hfit : fits a with
        | false =>
          obtain ⟨k, n, hk⟩ := ih a List.mem_cons_self _ hvalue hfit
          exact ⟨k, n, by simp only [encodeSlots, if_neg hmax, hk]⟩
        | true =>
          have hrest : slotsFit slots = false := by
            simpa [slotsFit, hfit, Nat.not_lt.1 hmax] using hf
          have hslots : (encodeSlots (kind + 1)
              (buffer.drop (RunItem.headerSize + align4 (size a))) slots).Overlong :=
            ihs ih' (by simp; omega) hrest
          obtain ⟨k, n, hk⟩ := hslots
          exact ⟨k, n, by
            simp only [encodeSlots, if_neg hmax, encodeInto_of_fits hvalue hfit, hk]⟩

/-- An attribute that does not fit is refused for one that is too long. -/
theorem encodeInto_overlong {a : Attribute} {buffer : List UInt8} (hl : buffer.length = size a)
    (hf : fits a = false) : (encodeInto buffer a).Overlong := by
  induction a generalizing buffer with
  | value v => simp [fits] at hf
  | table nest slots ih =>
    have hs : (encodeSlots 0 buffer slots).Overlong :=
      encodeSlots_overlong (fun a ha _ hb h => ih a ha hb h) hl hf
    have he : encodeInto buffer (table nest slots) = encodeSlots 0 buffer slots := by
      rw [encodeInto]
      exact if_pos hl
    exact he ▸ hs

/-- Slots that fit take at most the longest attribute each. -/
theorem sizeOfSlots_le {slots : List (Option Attribute)} (h : slotsFit slots = true) :
    sizeOfSlots slots ≤ 65536 * slots.length := by
  induction slots with
  | nil => simp [sizeOfSlots]
  | cons slot slots ih =>
    cases slot with
    | none =>
      have := ih h
      simp only [sizeOfSlots, List.length_cons]
      omega
    | some a =>
      simp only [slotsFit, Bool.and_eq_true, decide_eq_true_eq] at h
      have hmax : size a ≤ 65531 := h.1.1
      have := ih h.2
      have := align4_lt (size a)
      have := align4_mod (size a)
      simp only [sizeOfSlots, RunItem.headerSize, List.length_cons]
      omega

end Attribute

namespace Table

def fits (table : Table) : Bool := Attribute.slotsFit table

def spelled (table : Table) : List UInt8 := Attribute.spelledSlots 0 table

@[simp] theorem length_spelled (table : Table) : table.spelled.length = table.size :=
  Attribute.length_spelledSlots 0 fun a _ => a.length_spelled

theorem encodeInto_of_fits {table : Table} {buffer : List UInt8}
    (hl : buffer.length = table.size) (hf : table.fits = true) :
    table.encodeInto buffer = ⟨table.spelled, none⟩ := by
  rw [encodeInto, if_pos hl]
  exact Attribute.encodeSlots_of_fit (fun a _ _ hb h => Attribute.encodeInto_of_fits hb h) hl hf

theorem encodeInto_overlong {table : Table} {buffer : List UInt8}
    (hl : buffer.length = table.size) (hf : table.fits = false) :
    (table.encodeInto buffer).Overlong := by
  rw [encodeInto, if_pos hl]
  exact Attribute.encodeSlots_overlong (fun a _ _ hb h => Attribute.encodeInto_overlong hb h)
    hl hf

theorem size_le {table : Table} (h : table.fits = true) :
    table.size ≤ 65536 * table.length := Attribute.sizeOfSlots_le h

end Table
end RouteNetlink
