/-! Unsigned words as little-endian bytes. `bytes` and `value` are inverse on values
that fit the width and on lists of that length. -/
namespace RouteNetlink
namespace LittleEndian

/-- The `width` low bytes of a number, least significant first. -/
def bytes : (width value : Nat) → List UInt8
  | 0, _ => []
  | width + 1, value => UInt8.ofNat value :: bytes width (value / 256)

def span : (width : Nat) → Nat
  | 0 => 1
  | width + 1 => 256 * span width

def value : List UInt8 → Nat
  | [] => 0
  | b :: bs => b.toNat + 256 * value bs

@[simp] theorem length_bytes (width n : Nat) : (bytes width n).length = width := by
  induction width generalizing n with
  | zero => rfl
  | succ width ih => simp [bytes, ih]

theorem value_bytes (width n : Nat) : value (bytes width n) = n % span width := by
  induction width generalizing n with
  | zero => simp [bytes, value, span, Nat.mod_one]
  | succ width ih =>
    simp only [bytes, value, span, ih, UInt8.toNat_ofNat', Nat.reducePow]
    rw [Nat.mod_mul]

theorem value_bytes_of_lt {width n : Nat} (h : n < span width) :
    value (bytes width n) = n := by
  rw [value_bytes, Nat.mod_eq_of_lt h]

theorem bytes_value (bs : List UInt8) : bytes bs.length (value bs) = bs := by
  induction bs with
  | nil => rfl
  | cons b bs ih =>
    have hb := b.toNat_lt
    have hd : (b.toNat + 256 * value bs) / 256 = value bs := by omega
    have hm : UInt8.ofNat (b.toNat + 256 * value bs) = b := by
      apply UInt8.toNat_inj.mp
      simp only [UInt8.toNat_ofNat']
      omega
    simp only [List.length_cons, bytes, value, hd, ih, hm]

theorem value_lt (bs : List UInt8) : value bs < span bs.length := by
  induction bs with
  | nil => simp [value, span]
  | cons b bs ih =>
    have hb := b.toNat_lt
    simp only [value, List.length_cons, span]
    omega

end LittleEndian
end RouteNetlink
