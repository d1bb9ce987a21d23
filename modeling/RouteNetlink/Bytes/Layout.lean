import RouteNetlink.Bytes.Extent
import RouteNetlink.Bytes.LittleEndian
import RouteNetlink.Fault.Basic

/-! Fixed-width forms of values. A layout is lossless both ways on lists of its width,
and layouts are closed under pairing, renaming and repetition. -/
namespace RouteNetlink

structure Layout (α : Type) where
  width : Nat
  encode : α → List UInt8
  /-- Meaningful on lists of `width` bytes. -/
  decode : List UInt8 → α
  length_encode : ∀ a, (encode a).length = width
  decode_encode : ∀ a, decode (encode a) = a
  encode_decode : ∀ bs, bs.length = width → encode (decode bs) = bs

namespace Layout

attribute [simp] length_encode decode_encode

def rename {α β : Type} (layout : Layout α) (there : α → β) (back : β → α)
    (there_back : ∀ b, there (back b) = b) (back_there : ∀ a, back (there a) = a) : Layout β where
  width := layout.width
  encode b := layout.encode (back b)
  decode bs := there (layout.decode bs)
  length_encode b := layout.length_encode _
  decode_encode b := by simp [there_back]
  encode_decode bs h := by rw [back_there, layout.encode_decode bs h]

def pair {α β : Type} (first : Layout α) (second : Layout β) : Layout (α × β) where
  width := first.width + second.width
  encode v := first.encode v.1 ++ second.encode v.2
  decode bs := (first.decode (bs.take first.width), second.decode (bs.drop first.width))
  length_encode v := by simp
  decode_encode v := by
    have h : (first.encode v.1).length = first.width := first.length_encode v.1
    rw [List.take_append_of_le_length (by omega), List.drop_append_of_le_length (by omega)]
    rw [← h, List.take_length, List.drop_length, List.nil_append]
    simp
  encode_decode bs h := by
    rw [first.encode_decode _ (by simp; omega), second.encode_decode _ (by simp; omega)]
    exact List.take_append_drop ..

/-- An unsigned number that `width` bytes can spell. -/
private def word {α : Type} (width : Nat) (toNat : α → Nat) (ofNat : Nat → α)
    (toNat_lt : ∀ a, toNat a < LittleEndian.span width) (ofNat_toNat : ∀ a, ofNat (toNat a) = a)
    (toNat_ofNat : ∀ n, n < LittleEndian.span width → toNat (ofNat n) = n) : Layout α where
  width := width
  encode a := LittleEndian.bytes width (toNat a)
  decode bs := ofNat (LittleEndian.value bs)
  length_encode a := by simp
  decode_encode a := by rw [LittleEndian.value_bytes_of_lt (toNat_lt a), ofNat_toNat]
  encode_decode bs h := by
    have hlt := LittleEndian.value_lt bs
    rw [toNat_ofNat _ (by rw [← h]; exact hlt), ← h]
    exact LittleEndian.bytes_value bs

def u8 : Layout UInt8 :=
  word 1 UInt8.toNat UInt8.ofNat (fun a => a.toNat_lt) (by simp) (by simp [LittleEndian.span])

def u16 : Layout UInt16 :=
  word 2 UInt16.toNat UInt16.ofNat (fun a => a.toNat_lt) (by simp) (by simp [LittleEndian.span])

def u32 : Layout UInt32 :=
  word 4 UInt32.toNat UInt32.ofNat (fun a => a.toNat_lt) (by simp) (by simp [LittleEndian.span])

def u64 : Layout UInt64 :=
  word 8 UInt64.toNat UInt64.ofNat (fun a => a.toNat_lt) (by simp) (by simp [LittleEndian.span])

def i8 : Layout Int8 := u8.rename UInt8.toInt8 Int8.toUInt8 (by simp) (by simp)
def i16 : Layout Int16 := u16.rename UInt16.toInt16 Int16.toUInt16 (by simp) (by simp)
def i32 : Layout Int32 := u32.rename UInt32.toInt32 Int32.toUInt32 (by simp) (by simp)
def i64 : Layout Int64 := u64.rename UInt64.toInt64 Int64.toUInt64 (by simp) (by simp)

def many {α : Type} (layout : Layout α) : (n : Nat) → Layout (Vector α n)
  | 0 =>
    { width := 0
      encode := fun _ => []
      decode := fun _ => #v[]
      length_encode := fun _ => rfl
      decode_encode := fun _ => Vector.eq_empty.symm
      encode_decode := fun bs h => (List.eq_nil_of_length_eq_zero h).symm }
  | n + 1 =>
    (pair (many layout n) layout).rename (fun v => v.1.push v.2) (fun v => (v.pop, v.back))
      (fun v => by simp) (fun v => by
        refine Prod.ext (by simp) ?_
        simp [Vector.back])

@[simp] theorem width_many {α : Type} (layout : Layout α) (n : Nat) :
    (layout.many n).width = n * layout.width := by
  induction n with
  | zero => simp [many]
  | succ n ih => simp [many, rename, pair, ih, Nat.succ_mul]

/-- The value of a list that has exactly the layout's width. -/
def exactly {α : Type} (layout : Layout α) (bs : List UInt8) : Except Fault α :=
  if bs.length = layout.width then .ok (layout.decode bs)
  else .error (.truncated layout.width bs.length)

/-- The value at the front of a list; what follows it is ignored. -/
def leading {α : Type} (layout : Layout α) (bs : List UInt8) : Except Fault α :=
  if reaches layout.width bs then .ok (layout.decode (bs.take layout.width))
  else .error (.truncated layout.width bs.length)

def split? {α : Type} (layout : Layout α) (bs : List UInt8) : Option (α × List UInt8) :=
  if reaches layout.width bs then
    some (layout.decode (bs.take layout.width), bs.drop layout.width)
  else none

end Layout
end RouteNetlink
