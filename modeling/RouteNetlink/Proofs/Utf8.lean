import RouteNetlink.Text.Utf8
import Mathlib.Data.List.TakeWhile
import Mathlib.Tactic.Ring

/-! Decoding undoes encoding. On any other bytes it grows by a factor of three at most, and
it makes a zero character of nothing but a zero byte. -/
namespace RouteNetlink
namespace Utf8

theorem toNat_ofNat {n : Nat} (h : n < 256) : (UInt8.ofNat n).toNat = n := by
  rw [UInt8.toNat_ofNat', Nat.mod_eq_of_lt h]

/-- A byte in the range of an unfinished character adds its six low bits. -/
theorem Unfinished.next_tail (u : Unfinished) {d : Nat} (hd : d < 64)
    (hl : u.low.toNat ≤ d + 0x80) (hh : d + 0x80 ≤ u.high.toNat) :
    u.next (UInt8.ofNat (d + 0x80)) =
      match u.after with
      | 0 => .char (Char.ofNat (u.bits * 64 + d))
      | after + 1 => .unfinished ⟨u.bits * 64 + d, 0x80, 0xBF, after⟩ := by
  have hn : (UInt8.ofNat (d + 0x80)).toNat = d + 0x80 := toNat_ofNat (by omega)
  have hr : u.low ≤ UInt8.ofNat (d + 0x80) ∧ UInt8.ofNat (d + 0x80) ≤ u.high := by
    rw [UInt8.le_iff_toNat_le, UInt8.le_iff_toNat_le, hn]
    exact ⟨hl, hh⟩
  cases ha : u.after <;> simp only [next, if_pos hr, hn, ha, Nat.add_sub_cancel]

theorem start_ascii {n : Nat} (h : n < 0x80) :
    start (UInt8.ofNat n) = .char (Char.ofNat n) := by
  simp only [start, toNat_ofNat (show n < 256 by omega), if_pos h]

theorem start_two {n : Nat} (h : 2 ≤ n) (h' : n < 0x20) :
    start (UInt8.ofNat (n + 0xC0)) = .unfinished ⟨n, 0x80, 0xBF, 0⟩ := by
  simp only [start, toNat_ofNat (show n + 0xC0 < 256 by omega)]
  rw [if_neg (by omega), if_neg (by omega), if_pos (by omega), Nat.add_sub_cancel]

/-- The first of three bytes admits what a second one of a character can be. -/
theorem start_three {n d : Nat} (hn : n < 0x10) (hd : d < 64) (hlow : n = 0 → 0x20 ≤ d)
    (hsurrogate : n = 0xD → d < 0x20) :
    ∃ u, start (UInt8.ofNat (n + 0xE0)) = .unfinished u ∧ u.bits = n ∧ u.after = 1 ∧
      u.low.toNat ≤ d + 0x80 ∧ d + 0x80 ≤ u.high.toNat := by
  have hb : (UInt8.ofNat (n + 0xE0)).toNat = n + 0xE0 := toNat_ofNat (by omega)
  simp only [start, hb, Nat.add_sub_cancel]
  rw [if_neg (by omega), if_neg (by omega), if_neg (by omega)]
  by_cases h0 : n = 0
  · subst h0
    exact ⟨_, rfl, rfl, rfl, by simp; omega, by simp; omega⟩
  · rw [if_neg (by omega)]
    by_cases hD : n = 0xD
    · subst hD
      exact ⟨_, rfl, rfl, rfl, by simp, by simp; omega⟩
    · rw [if_neg (by omega), if_pos (by omega)]
      exact ⟨_, rfl, rfl, rfl, by simp, by simp; omega⟩

/-- The first of four bytes admits what a second one of a character can be. -/
theorem start_four {n d : Nat} (hn : n < 5) (hd : d < 64) (hlow : n = 0 → 0x10 ≤ d)
    (hlast : n = 4 → d < 0x10) :
    ∃ u, start (UInt8.ofNat (n + 0xF0)) = .unfinished u ∧ u.bits = n ∧ u.after = 2 ∧
      u.low.toNat ≤ d + 0x80 ∧ d + 0x80 ≤ u.high.toNat := by
  have hb : (UInt8.ofNat (n + 0xF0)).toNat = n + 0xF0 := toNat_ofNat (by omega)
  simp only [start, hb, Nat.add_sub_cancel]
  rw [if_neg (by omega), if_neg (by omega), if_neg (by omega), if_neg (by omega),
    if_neg (by omega), if_neg (by omega)]
  by_cases h0 : n = 0
  · subst h0
    exact ⟨_, rfl, rfl, rfl, by simp; omega, by simp; omega⟩
  · rw [if_neg (by omega)]
    by_cases h4 : n = 4
    · subst h4
      exact ⟨_, rfl, rfl, rfl, by simp, by simp; omega⟩
    · rw [if_neg (by omega), if_pos (by omega)]
      exact ⟨_, rfl, rfl, rfl, by simp, by simp; omega⟩

theorem foldl_push_two {v : Nat} (hlow : 0x80 ≤ v) (hhigh : v < 0x800) (chars : List Char) :
    [UInt8.ofNat (v / 64 % 32 + 0xC0), UInt8.ofNat (v % 64 + 0x80)].foldl Reading.push
      ⟨chars, none⟩ = ⟨Char.ofNat v :: chars, none⟩ := by
  have hd : v / 64 % 32 = v / 64 := by omega
  have hs := start_two (n := v / 64) (by omega) (by omega)
  have ht := (Unfinished.mk (v / 64) 0x80 0xBF 0).next_tail (d := v % 64) (by omega)
    (by simp) (by simp; omega)
  have hsum : v / 64 * 64 + v % 64 = v := by omega
  simp only [hd, List.foldl_cons, List.foldl_nil, Reading.push, Reading.begin, hs, ht, hsum]

theorem foldl_push_three {v : Nat} (hlow : 0x800 ≤ v) (hhigh : v < 0x10000)
    (hv : v < 0xD800 ∨ 0xDFFF < v) (chars : List Char) :
    [UInt8.ofNat (v / 4096 % 16 + 0xE0), UInt8.ofNat (v / 64 % 64 + 0x80),
      UInt8.ofNat (v % 64 + 0x80)].foldl Reading.push ⟨chars, none⟩ =
        ⟨Char.ofNat v :: chars, none⟩ := by
  have hd : v / 4096 % 16 = v / 4096 := by omega
  obtain ⟨u, hs, hbits, hafter, hl, hh⟩ := start_three (n := v / 4096) (d := v / 64 % 64)
    (by omega) (by omega) (by omega) (by omega)
  have h1 := u.next_tail (by omega) hl hh
  rw [hafter, hbits] at h1
  have h2 := (Unfinished.mk (v / 4096 * 64 + v / 64 % 64) 0x80 0xBF 0).next_tail
    (d := v % 64) (by omega) (by simp) (by simp; omega)
  have hsum : (v / 4096 * 64 + v / 64 % 64) * 64 + v % 64 = v := by omega
  simp only [hd, List.foldl_cons, List.foldl_nil, Reading.push, Reading.begin, hs, h1, h2, hsum]

theorem foldl_push_four {v : Nat} (hlow : 0x10000 ≤ v) (hhigh : v < 0x110000)
    (chars : List Char) :
    [UInt8.ofNat (v / 262144 % 8 + 0xF0), UInt8.ofNat (v / 4096 % 64 + 0x80),
      UInt8.ofNat (v / 64 % 64 + 0x80), UInt8.ofNat (v % 64 + 0x80)].foldl Reading.push
        ⟨chars, none⟩ = ⟨Char.ofNat v :: chars, none⟩ := by
  have hd : v / 262144 % 8 = v / 262144 := by omega
  obtain ⟨u, hs, hbits, hafter, hl, hh⟩ := start_four (n := v / 262144) (d := v / 4096 % 64)
    (by omega) (by omega) (by omega) (by omega)
  have h1 := u.next_tail (by omega) hl hh
  rw [hafter, hbits] at h1
  have h2 := (Unfinished.mk (v / 262144 * 64 + v / 4096 % 64) 0x80 0xBF 1).next_tail
    (d := v / 64 % 64) (by omega) (by simp) (by simp; omega)
  have h3 := (Unfinished.mk ((v / 262144 * 64 + v / 4096 % 64) * 64 + v / 64 % 64)
    0x80 0xBF 0).next_tail (d := v % 64) (by omega) (by simp) (by simp; omega)
  have hsum : ((v / 262144 * 64 + v / 4096 % 64) * 64 + v / 64 % 64) * 64 + v % 64 = v := by
    omega
  simp only [hd, List.foldl_cons, List.foldl_nil, Reading.push, Reading.begin, hs, h1, h2, h3,
    hsum]

/-- Reading the bytes of a character gives the character. -/
theorem foldl_push_encodeChar (c : Char) (chars : List Char) :
    (String.utf8EncodeChar c).foldl Reading.push ⟨chars, none⟩ = ⟨c :: chars, none⟩ := by
  have hv : c.val.toNat < 0xD800 ∨ 0xDFFF < c.val.toNat ∧ c.val.toNat < 0x110000 := c.valid
  rw [← Char.ofNat_toNat c]
  generalize hn : c.toNat = v
  have hval : (Char.ofNat v).val.toNat = v := by rw [← hn, Char.ofNat_toNat]; rfl
  rw [show c.val.toNat = v from hn] at hv
  simp only [String.utf8EncodeChar, hval]
  split
  · simp only [List.foldl_cons, List.foldl_nil, Reading.push, Reading.begin,
      start_ascii (show v < 0x80 by omega)]
  · split
    · exact foldl_push_two (by omega) (by omega) chars
    · split
      · exact foldl_push_three (by omega) (by omega) (by omega) chars
      · exact foldl_push_four (by omega) (by omega) chars

theorem foldl_push_encode (cs chars : List Char) :
    (cs.flatMap String.utf8EncodeChar).foldl Reading.push ⟨chars, none⟩ =
      ⟨cs.reverse ++ chars, none⟩ := by
  induction cs generalizing chars with
  | nil => rfl
  | cons c cs ih =>
    rw [List.flatMap_cons, List.foldl_append, foldl_push_encodeChar, ih]
    simp

@[simp] theorem decode_encode (s : String) : decode (encode s) = s := by
  rw [decode, encode, foldl_push_encode]
  simp [Reading.finish]

theorem utf8ByteSize_ofList (cs : List Char) :
    (String.ofList cs).utf8ByteSize = (cs.map Char.utf8Size).sum := by
  rw [← String.size_toByteArray, String.toByteArray_ofList]
  induction cs with
  | nil => rfl
  | cons c cs ih =>
    rw [List.utf8Encode_cons, ByteArray.size_append, ih, List.utf8Encode_singleton]
    simp

@[simp] theorem length_encode (s : String) : (encode s).length = s.utf8ByteSize := by
  have h := utf8ByteSize_ofList s.toList
  rw [String.ofList_toList] at h
  rw [h, encode, List.length_flatMap]
  simp

theorem encodeChar_ne_zero {c : Char} (h : c ≠ '\x00') :
    ∀ b ∈ String.utf8EncodeChar c, b ≠ 0 := by
  have hv : c.val.toNat ≠ 0 := by
    intro hz
    apply h
    rw [← Char.ofNat_toNat c]
    exact congrArg Char.ofNat hz
  have hc : c.val.toNat < 0xD800 ∨ 0xDFFF < c.val.toNat ∧ c.val.toNat < 0x110000 := c.valid
  have hne {n : Nat} (hn : n % 256 ≠ 0) : UInt8.ofNat n ≠ 0 := by
    intro he
    have := congrArg UInt8.toNat he
    simp at this
    omega
  unfold String.utf8EncodeChar
  generalize c.val.toNat = v at hv hc
  intro b hb
  dsimp only at hb
  split at hb
  · obtain rfl := List.mem_singleton.1 hb
    exact hne (by omega)
  · split at hb
    · simp only [List.mem_cons, List.not_mem_nil, or_false] at hb
      rcases hb with rfl | rfl <;> exact hne (by omega)
    · split at hb <;> simp only [List.mem_cons, List.not_mem_nil, or_false] at hb
      · rcases hb with rfl | rfl | rfl <;> exact hne (by omega)
      · rcases hb with rfl | rfl | rfl | rfl <;> exact hne (by omega)

theorem encode_ne_zero {s : String} (h : '\x00' ∉ s.toList) : ∀ b ∈ encode s, b ≠ 0 := by
  intro b hb
  obtain ⟨c, hc, hb⟩ := List.mem_flatMap.1 hb
  exact encodeChar_ne_zero (fun he => h (he ▸ hc)) b hb

/-- Text without a zero character survives behind its terminator. -/
theorem decodeTerminated_encode {s : String} (h : '\x00' ∉ s.toList) :
    decodeTerminated (encode s ++ [0]) = s := by
  have ht : (encode s ++ [0]).takeWhile (· ≠ 0) = encode s := by
    rw [List.takeWhile_append_of_pos (by simpa using encode_ne_zero h)]
    simp
  rw [decodeTerminated, ht, decode_encode]

theorem start_eq_char {b : UInt8} {c : Char} (h : start b = .char c) :
    b.toNat < 0x80 ∧ c = Char.ofNat b.toNat := by
  unfold start at h
  dsimp only at h
  split at h
  · cases h
    exact ⟨by assumption, rfl⟩
  · repeat' split at h
    all_goals cases h

theorem val_ofNat {n : Nat} (h : n.isValidChar) : (Char.ofNat n).val.toNat = n := by
  rw [Char.ofNat, dif_pos h]
  rfl

theorem utf8Size_ofNat_ascii {n : Nat} (h : n < 0x80) : (Char.ofNat n).utf8Size = 1 := by
  rw [Char.utf8Size_eq_one_iff, UInt32.le_iff_toNat_le, val_ofNat (.inl (by omega))]
  exact Nat.le_of_lt_succ h

namespace Reading

/-- The encoded size of what is read, with an unfinished character as a replacement. -/
def cost (r : Reading) : Nat :=
  (r.chars.map Char.utf8Size).sum + r.open?.elim 0 fun _ => 3

theorem cost_begin (chars : List Char) (b : UInt8) :
    (begin chars b).cost ≤ (chars.map Char.utf8Size).sum + 3 := by
  unfold begin
  split
  · rename_i c hs
    obtain ⟨hb, rfl⟩ := start_eq_char hs
    simp [cost, utf8Size_ofNat_ascii hb]
    omega
  · simp [cost]
  · have hr : replacement.utf8Size = 3 := by decide
    simp [cost, hr]
    omega

/-- Each byte adds at most three. -/
theorem cost_push (r : Reading) (b : UInt8) : (r.push b).cost ≤ r.cost + 3 := by
  obtain ⟨chars, open?⟩ := r
  cases open? with
  | none => simpa [push, cost] using cost_begin chars b
  | some u =>
    simp only [push]
    cases u.next b with
    | char c =>
      have := c.utf8Size_le_four
      simp [cost]
      omega
    | unfinished u => simp [cost]
    | stray =>
      have hb := cost_begin (replacement :: chars) b
      have hr : replacement.utf8Size = 3 := by decide
      simp [cost, hr] at hb ⊢
      omega

theorem cost_foldl (r : Reading) (bs : List UInt8) :
    (bs.foldl push r).cost ≤ r.cost + 3 * bs.length := by
  induction bs generalizing r with
  | nil => simp
  | cons b bs ih =>
    have h1 := ih (r.push b)
    have h2 := r.cost_push b
    simp only [List.foldl_cons, List.length_cons]
    omega

theorem sum_finish (r : Reading) : (r.finish.map Char.utf8Size).sum = r.cost := by
  have hr : replacement.utf8Size = 3 := by decide
  obtain ⟨chars, open?⟩ := r
  cases open? with
  | none => simp [finish, cost]
  | some u => simp [finish, cost, hr]

end Reading

/-- Each byte becomes three at the most, as a replacement does. -/
theorem utf8ByteSize_decode_le (bs : List UInt8) : (decode bs).utf8ByteSize ≤ 3 * bs.length := by
  rw [decode, utf8ByteSize_ofList, Reading.sum_finish]
  simpa [Reading.cost] using Reading.cost_foldl ⟨[], none⟩ bs

theorem utf8ByteSize_decodeTerminated_le (bs : List UInt8) :
    (decodeTerminated bs).utf8ByteSize ≤ 3 * bs.length := by
  have hd := utf8ByteSize_decode_le (bs.takeWhile (· ≠ 0))
  have ht : (bs.takeWhile (· ≠ 0)).length ≤ bs.length := (List.takeWhile_prefix _).length_le
  rw [decodeTerminated]
  omega

/-- Whatever completes the character, its number is one of a character other than zero. -/
structure Unfinished.Sound (u : Unfinished) : Prop where
  low : 0x80 ≤ u.low.toNat
  high : u.high.toNat ≤ 0xBF
  number : ∀ n, (u.bits * 64 + (u.low.toNat - 0x80)) * 64 ^ u.after ≤ n →
    n < (u.bits * 64 + (u.high.toNat - 0x80) + 1) * 64 ^ u.after → n ≠ 0 ∧ n.isValidChar

theorem start_sound {b : UInt8} {u : Unfinished} (h : start b = .unfinished u) : u.Sound := by
  unfold start at h
  dsimp only at h
  repeat' split at h
  all_goals simp only [Progress.unfinished.injEq, reduceCtorEq] at h
  all_goals
    subst h
    refine ⟨by simp, by simp, fun n hl hh => ?_⟩
    simp [Nat.isValidChar] at hl hh ⊢
    omega

theorem Unfinished.Sound.next {u u' : Unfinished} {b : UInt8} (hu : u.Sound)
    (h : u.next b = .unfinished u') : u'.Sound := by
  unfold Unfinished.next at h
  split at h
  · rename_i hr
    rw [UInt8.le_iff_toNat_le, UInt8.le_iff_toNat_le] at hr
    have hlow := hu.low
    dsimp only at h
    split at h
    · simp only [reduceCtorEq] at h
    · rename_i after ha
      obtain rfl := Progress.unfinished.inj h
      -- The next byte narrows the range to one of its sixty-four parts.
      refine ⟨by simp, by simp, fun n hl hh => hu.number n ?_ ?_⟩
      · have hlt : u.bits * 64 + (u.low.toNat - 0x80) ≤ u.bits * 64 + (b.toNat - 0x80) := by omega
        calc _ ≤ (u.bits * 64 + (b.toNat - 0x80)) * 64 ^ u.after := Nat.mul_le_mul_right _ hlt
          _ = (u.bits * 64 + (b.toNat - 0x80)) * 64 * 64 ^ after := by rw [ha, Nat.pow_succ]; ring
          _ ≤ n := by simpa using hl
      · have hlt : u.bits * 64 + (b.toNat - 0x80) + 1 ≤
            u.bits * 64 + (u.high.toNat - 0x80) + 1 := by omega
        calc n < ((u.bits * 64 + (b.toNat - 0x80)) * 64 + 64) * 64 ^ after := by simpa using hh
          _ = (u.bits * 64 + (b.toNat - 0x80) + 1) * 64 ^ u.after := by rw [ha, Nat.pow_succ]; ring
          _ ≤ _ := Nat.mul_le_mul_right _ hlt
  · simp only [reduceCtorEq] at h

theorem ofNat_ne_zero {n : Nat} (h0 : n ≠ 0) (h : n.isValidChar) : Char.ofNat n ≠ '\x00' := by
  intro he
  apply h0
  rw [← val_ofNat h, he]
  rfl

theorem Unfinished.Sound.next_char {u : Unfinished} {b : UInt8} {c : Char} (hu : u.Sound)
    (h : u.next b = .char c) : c ≠ '\x00' := by
  unfold Unfinished.next at h
  split at h
  · rename_i hr
    rw [UInt8.le_iff_toNat_le, UInt8.le_iff_toNat_le] at hr
    dsimp only at h
    split at h
    · rename_i ha
      obtain rfl := Progress.char.inj h
      have hlow := hu.low
      have := hu.number (u.bits * 64 + (b.toNat - 0x80)) (by simp [ha]; omega)
        (by simp [ha]; omega)
      exact ofNat_ne_zero this.1 this.2
    · simp only [reduceCtorEq] at h
  · simp only [reduceCtorEq] at h

namespace Reading

/-- Neither what is read nor what is unfinished holds a zero character. -/
structure Clean (r : Reading) : Prop where
  chars : '\x00' ∉ r.chars
  sound : ∀ u, r.open? = some u → u.Sound

theorem clean_begin {chars : List Char} {b : UInt8} (hc : '\x00' ∉ chars) (hb : b ≠ 0) :
    (begin chars b).Clean := by
  unfold begin
  split
  · rename_i c hs
    obtain ⟨hlt, rfl⟩ := start_eq_char hs
    have hn : b.toNat ≠ 0 := fun h => hb (UInt8.toNat_inj.1 h)
    have hne := ofNat_ne_zero hn (.inl (by omega))
    exact ⟨List.not_mem_cons_of_ne_of_not_mem hne.symm hc, nofun⟩
  · rename_i u hs
    refine ⟨hc, fun u' hu => ?_⟩
    obtain rfl := Option.some.inj hu
    exact start_sound hs
  · exact ⟨List.not_mem_cons_of_ne_of_not_mem (by decide) hc, nofun⟩

theorem Clean.push {r : Reading} {b : UInt8} (h : r.Clean) (hb : b ≠ 0) : (r.push b).Clean := by
  unfold Reading.push
  split
  · exact clean_begin h.chars hb
  · rename_i u ho
    have hu := h.sound u ho
    split
    · rename_i c hn
      exact ⟨List.not_mem_cons_of_ne_of_not_mem (hu.next_char hn).symm h.chars, nofun⟩
    · rename_i u' hn
      refine ⟨h.chars, fun u'' he => ?_⟩
      obtain rfl := Option.some.inj he
      exact hu.next hn
    · exact clean_begin (List.not_mem_cons_of_ne_of_not_mem (by decide) h.chars) hb

theorem Clean.foldl {r : Reading} {bs : List UInt8} (h : r.Clean) (hb : ∀ b ∈ bs, b ≠ 0) :
    (bs.foldl Reading.push r).Clean := by
  induction bs generalizing r with
  | nil => exact h
  | cons b bs ih =>
    obtain ⟨hb, hbs⟩ := List.forall_mem_cons.1 hb
    exact ih (h.push hb) hbs

theorem Clean.finish {r : Reading} (h : r.Clean) : '\x00' ∉ r.finish := by
  unfold Reading.finish
  split
  · simpa using h.chars
  · have hr : '\x00' ≠ replacement := by decide
    simpa [hr] using h.chars

end Reading

/-- Terminated text has no zero character, whatever its bytes are. -/
theorem zero_not_mem_decodeTerminated (bs : List UInt8) :
    '\x00' ∉ (decodeTerminated bs).toList := by
  have hb : ∀ b ∈ bs.takeWhile (· ≠ 0), b ≠ 0 := by
    intro b hb
    simpa using List.mem_takeWhile_imp hb
  have hc : (Reading.mk [] none).Clean := ⟨List.not_mem_nil, nofun⟩
  rw [decodeTerminated, decode, String.toList_ofList]
  exact (hc.foldl hb).finish

end Utf8
end RouteNetlink
