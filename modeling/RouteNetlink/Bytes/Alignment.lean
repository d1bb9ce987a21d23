/-! Records and attributes start on four-byte boundaries. -/
namespace RouteNetlink

/-- The least multiple of four that is not below `n`. -/
def align4 (n : Nat) : Nat := (n + 3) / 4 * 4

theorem le_align4 (n : Nat) : n ≤ align4 n := by unfold align4; omega

theorem align4_lt (n : Nat) : align4 n < n + 4 := by unfold align4; omega

@[simp] theorem align4_mod (n : Nat) : align4 n % 4 = 0 := by unfold align4; omega

theorem align4_of_mod {n : Nat} (h : n % 4 = 0) : align4 n = n := by unfold align4; omega

@[simp] theorem align4_align4 (n : Nat) : align4 (align4 n) = align4 n :=
  align4_of_mod (align4_mod n)

/-- Zero bytes that bring a value of `n` bytes to the next boundary. -/
def padding (n : Nat) : List UInt8 := List.replicate (align4 n - n) 0

@[simp] theorem length_padding (n : Nat) : (padding n).length = align4 n - n := by
  simp [padding]

end RouteNetlink
