import RouteNetlink.Text.Hex

/-! Numbers in digits. Different numbers have different digits, and no other character is among
them. -/
namespace RouteNetlink
namespace Hex

theorem digitChar_inj : ∀ m < 16, ∀ n < 16, Nat.digitChar m = Nat.digitChar n → m = n := by decide

theorem toDigits_inj {m n : Nat} (h : Nat.toDigits 16 m = Nat.toDigits 16 n) : m = n := by
  induction m using Nat.strongRecOn generalizing n with
  | ind m ih =>
    by_cases hm : m < 16
    · rw [Nat.toDigits_of_lt_base hm] at h
      by_cases hn : n < 16
      · rw [Nat.toDigits_of_lt_base hn] at h
        exact digitChar_inj m hm n hn (List.cons.inj h).1
      · rw [Nat.toDigits_of_base_le (by decide) (Nat.not_lt.1 hn)] at h
        obtain ⟨hnil, -⟩ | ⟨-, hnil⟩ := List.singleton_eq_append_iff.1 h
        · exact absurd hnil Nat.toDigits_ne_nil
        · cases hnil
    · rw [Nat.toDigits_of_base_le (by decide) (Nat.not_lt.1 hm)] at h
      by_cases hn : n < 16
      · rw [Nat.toDigits_of_lt_base hn] at h
        obtain ⟨hnil, -⟩ | ⟨-, hnil⟩ := List.append_eq_singleton_iff.1 h
        · exact absurd hnil Nat.toDigits_ne_nil
        · cases hnil
      · rw [Nat.toDigits_of_base_le (by decide) (Nat.not_lt.1 hn)] at h
        obtain ⟨hhigh, hlow⟩ := List.append_singleton_inj.1 h
        have hdiv := ih (m / 16) (by omega) hhigh
        have hmod := digitChar_inj _ (Nat.mod_lt m (by decide)) _ (Nat.mod_lt n (by decide)) hlow
        omega

theorem toList_number (n : Nat) : (number n).toList = '0' :: 'x' :: Nat.toDigits 16 n := by
  simp [number, digits]

theorem number_inj {m n : Nat} (h : number m = number n) : m = n := by
  have hlist := congrArg String.toList h
  rw [toList_number, toList_number] at hlist
  exact toDigits_inj (List.cons.inj (List.cons.inj hlist).2).2

/-- A character that is none of the sixteen digits is in no number. -/
theorem notMem_toDigits {base : Nat} (hb : 1 < base) (hl : base ≤ 16) {c : Char}
    (hc : ∀ d < 16, Nat.digitChar d ≠ c) (n : Nat) : c ∉ Nat.toDigits base n := by
  induction n using Nat.strongRecOn with
  | ind n ih =>
    by_cases hn : n < base
    · rw [Nat.toDigits_of_lt_base hn, List.mem_singleton]
      exact fun h => hc n (Nat.lt_of_lt_of_le hn hl) h.symm
    · have hn := Nat.not_lt.1 hn
      have hlow : n % base < base := Nat.mod_lt n (Nat.lt_of_succ_lt hb)
      have hless : n / base < n :=
        Nat.div_lt_self (Nat.lt_of_lt_of_le (Nat.lt_of_succ_lt hb) hn) hb
      rw [Nat.toDigits_of_base_le hb hn, List.mem_append, List.mem_singleton, not_or]
      exact ⟨ih _ hless, fun h => hc _ (Nat.lt_of_lt_of_le hlow hl) h.symm⟩

end Hex
end RouteNetlink
