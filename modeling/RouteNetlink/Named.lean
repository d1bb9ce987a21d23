/-! Values kept under names, one for each name. -/
namespace RouteNetlink

abbrev Named (α : Type) := List (String × α)

namespace Named

variable {α : Type}

def forget (named : Named α) (name : String) : Named α :=
  named.filter fun item => item.1 ≠ name

/-- Keeps a value in place of what its name stood for. -/
def keep (named : Named α) (name : String) (a : α) : Named α := (name, a) :: named.forget name

theorem lookup_cons_eq_if (named : Named α) (name other : String) (a : α) :
    List.lookup other ((name, a) :: named) =
      if other = name then some a else named.lookup other := by
  by_cases h : other = name
  · simp [h]
  · have hb : (other == name) = false := by simp [h]
    simp [List.lookup_cons, h, hb]

@[simp] theorem lookup_forget (named : Named α) (name other : String) :
    (named.forget name).lookup other = if other = name then none else named.lookup other := by
  induction named with
  | nil => simp [forget]
  | cons item named ih =>
    obtain ⟨key, a⟩ := item
    have hf : forget ((key, a) :: named) name =
        if key = name then forget named name else (key, a) :: forget named name := by
      by_cases hk : key = name <;> simp [forget, hk]
    rw [hf, lookup_cons_eq_if]
    by_cases hk : key = name
    · rw [if_pos hk, ih]
      by_cases ho : other = name <;> simp [ho, hk]
    · rw [if_neg hk, lookup_cons_eq_if, ih]
      by_cases ho : other = key
      · subst ho
        simp [hk]
      · simp [ho]

@[simp] theorem lookup_keep (named : Named α) (name other : String) (a : α) :
    (named.keep name a).lookup other = if other = name then some a else named.lookup other := by
  rw [keep, lookup_cons_eq_if, lookup_forget]
  by_cases h : other = name <;> simp [h]

end Named
end RouteNetlink
