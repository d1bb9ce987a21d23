/-! Comparing the length of a list with a number, without measuring more of the list than
the number asks for. -/
namespace RouteNetlink

def reaches {α : Type} : (n : Nat) → List α → Bool
  | 0, _ => true
  | _ + 1, [] => false
  | n + 1, _ :: as => reaches n as

@[simp] theorem reaches_iff {α : Type} (n : Nat) (as : List α) :
    reaches n as = true ↔ n ≤ as.length := by
  induction n generalizing as with
  | zero => simp [reaches]
  | succ n ih => cases as <;> simp [reaches, ih]

theorem reaches_congr {α : Type} {as bs : List α} (h : as.length = bs.length) {n : Nat} :
    reaches n as = reaches n bs := by
  rw [Bool.eq_iff_iff, reaches_iff, reaches_iff, h]

end RouteNetlink
