import RouteNetlink.Proofs.Flushing
import RouteNetlink.Proofs.Numbering

/-! When numbers come again. The counter comes round only after it has given every number but
zero, so a reply can always be reserved before. -/
namespace RouteNetlink

namespace TransmitBuffer

/-- The number that is given after so many others. -/
def nth (n : Nat) : UInt32 := .ofNat (n % (UInt32.size - 1) + 1)

theorem toNat_nth (n : Nat) : (nth n).toNat = n % (UInt32.size - 1) + 1 := by
  have hs : UInt32.size = 2 ^ 32 := rfl
  have hlt : n % (UInt32.size - 1) < UInt32.size - 1 := Nat.mod_lt _ (by omega)
  rw [nth, UInt32.toNat_ofNat', Nat.mod_eq_of_lt (by omega)]

theorem successor_nth (n : Nat) : successor (nth n) = nth (n + 1) := by
  have hs : UInt32.size = 2 ^ 32 := rfl
  have hn := toNat_nth n
  have hlt : n % (UInt32.size - 1) < UInt32.size - 1 := Nat.mod_lt _ (by omega)
  apply UInt32.toNat_inj.1
  rw [toNat_nth (n + 1), Nat.add_mod, Nat.mod_eq_of_lt (by omega : 1 < UInt32.size - 1)]
  by_cases hround : n % (UInt32.size - 1) + 1 < UInt32.size - 1
  · rw [toNat_successor (by omega), hn, Nat.mod_eq_of_lt hround]
  · -- the largest number, which zero would follow
    have hlast : n % (UInt32.size - 1) + 1 = UInt32.size - 1 := by omega
    have hmax : nth n + 1 = 0 := by
      apply UInt32.toNat_inj.1
      rw [UInt32.toNat_add, UInt32.toNat_one, hn, hlast]
      rfl
    rw [successor, if_pos hmax, hlast, Nat.mod_self]
    rfl

theorem nth_ne_zero (n : Nat) : nth n ≠ 0 := by
  intro h
  have hn := toNat_nth n
  rw [h] at hn
  exact absurd hn (Nat.succ_ne_zero _).symm

/-- A number does not come again before all others have come. -/
theorem period_of_nth_eq {n k : Nat} (hk : 0 < k) (h : nth (n + k) = nth n) :
    UInt32.size - 1 ≤ k := by
  have hs : UInt32.size - 1 = 4294967295 := rfl
  have hmod := congrArg UInt32.toNat h
  rw [toNat_nth, toNat_nth, hs] at hmod
  omega

/-- A number that is given twice was given in another round. -/
theorem round_of_nth_eq {i n : Nat} (hi : i < n) (h : nth i = nth n) : UInt32.size - 1 ≤ n := by
  have hsum : i + (n - i) = n := Nat.add_sub_of_le (Nat.le_of_lt hi)
  have hperiod : nth (i + (n - i)) = nth i := by rw [hsum, h]
  exact (period_of_nth_eq (Nat.sub_pos_of_lt hi) hperiod).trans (Nat.sub_le n i)

theorem holding_counter (buffer : TransmitBuffer) (message : Message) :
    (buffer.holding message).nextSequence = buffer.nextSequence ∨
      (buffer.holding message).nextSequence = successor buffer.nextSequence :=
  buffer.counted_counter message.header

end TransmitBuffer

namespace Ledger

/-- What keeps a reply from being reserved. -/
theorem register_eq_error {ledger : Ledger} {sequence : UInt32} {fault : Fault}
    (h : ledger.register sequence = .error fault) :
    ledger.closed = true ∧ fault = .closed ∨
      ledger.closed = false ∧ fault = .invalidMessage (.sequenceTaken sequence) ∧
        ∃ r ∈ ledger.waiters, r.sequence = sequence := by
  unfold register at h
  split at h
  · cases h
    exact .inl ⟨‹_›, rfl⟩
  · split at h
    · rename_i hc hw
      cases h
      obtain ⟨r, hr⟩ := Option.isSome_iff_exists.1 hw
      exact .inr ⟨by simpa using hc, rfl, r, waiter?_eq_some hr⟩
    · cases h

end Ledger

namespace Office
open TransmitBuffer

/-- The counter has come so far, and every reply was reserved under a number before. -/
structure Drawn (past : List Event) (office : Office) (n : Nat) : Prop where
  le : n ≤ framings past
  counter : office.session.transmit.nextSequence = nth n
  reserved : ∀ r request, .reserved r request ∈ past → ∃ i < n, r.sequence = nth i

variable {given : Message → Prop} {past events later : List Event} {office next last : Office}
  {n : Nat}

theorem Drawn.new (settings : Settings) (port : UInt32) (transport : Transport) :
    Drawn [] (.new settings port transport) 0 where
  le := Nat.le_refl _
  counter := rfl
  reserved := by simp

/-- Where the counter stays. -/
theorem Drawn.still (h : Drawn past office n)
    (hr : ∀ r request, .reserved r request ∉ events)
    (hc : next.session.transmit.nextSequence = office.session.transmit.nextSequence) :
    Drawn (past ++ events) next n where
  le := by
    rw [framings_append]
    exact Nat.le_add_right_of_le h.le
  counter := hc.trans h.counter
  reserved := fun r request hm =>
    h.reserved r request ((List.mem_append.1 hm).resolve_right (hr r request))

/-- Where the counter goes on. -/
theorem Drawn.go (h : Drawn past office n) (hf : 0 < framings events)
    (hr : ∀ r request, .reserved r request ∈ events →
      r.sequence = office.session.transmit.nextSequence)
    (hc : next.session.transmit.nextSequence =
      successor office.session.transmit.nextSequence) :
    Drawn (past ++ events) next (n + 1) where
  le := by
    rw [framings_append]
    exact Nat.add_le_add h.le hf
  counter := by rw [hc, h.counter, successor_nth]
  reserved := by
    intro r request hm
    rcases List.mem_append.1 hm with hm | hm
    · obtain ⟨i, hi, hs⟩ := h.reserved r request hm
      exact ⟨i, Nat.lt_succ_of_lt hi, hs⟩
    · exact ⟨n, Nat.lt_succ_self n, (hr r request hm).trans h.counter⟩

/-- Where the counter may go on. -/
theorem Drawn.pass (h : Drawn past office n) (hf : 0 < framings events)
    (hr : ∀ r request, .reserved r request ∉ events)
    (hc : next.session.transmit.nextSequence = office.session.transmit.nextSequence ∨
      next.session.transmit.nextSequence = successor office.session.transmit.nextSequence) :
    ∃ n, Drawn (past ++ events) next n := by
  rcases hc with hc | hc
  · exact ⟨n, h.still hr hc⟩
  · exact ⟨n + 1, h.go hf (fun r request hm => absurd hm (hr r request)) hc⟩

theorem Drawn.effect (h : Drawn past office n) (he : Effect given office events next) :
    ∃ n, Drawn (past ++ events) next n := by
  cases he with
  | frame | ask =>
    exact h.pass (by simp [framings, Event.isFraming]) (by simp) (holding_counter ..)
  | refuse _ _ hb => exact h.pass (by simp [framings, Event.isFraming]) (by simp) hb.counter
  | reserve _ hs hr =>
    refine ⟨n + 1, h.go (by simp [framings, Event.isFraming]) ?_
      (Message.counter_holding hs _)⟩
    intro r request hm
    obtain ⟨rfl, -⟩ : r = _ ∧ request = _ := by simpa using hm
    rw [(Ledger.of_register hr).2.2.1]
    exact Message.sequence_stamped hs _
  | unreserve _ hs =>
    exact ⟨n + 1, h.go (by simp [framings, Event.isFraming]) (by simp)
      (Message.counter_holding hs _)⟩
  | @crash session held receipt =>
    obtain ⟨sequence, reservation?⟩ := receipt
    cases reservation? <;> exact ⟨n, h.still (by simp) rfl⟩
  | close hc =>
    rw [close_of_open hc]
    exact ⟨n, h.still (by simp) rfl⟩
  | _ => exact ⟨n, h.still (by simp) rfl⟩

/-- A number that is still awaited was given a whole round ago. -/
theorem Drawn.round (h : Drawn past office n) (hb : Booked past office) {r : Reservation}
    (hw : r ∈ office.session.ledger.waiters)
    (hs : r.sequence = office.session.transmit.nextSequence) : UInt32.size - 1 ≤ framings past := by
  obtain ⟨request, hm⟩ :=
    registered_mem_entries.1 ((hb.history.tied.waits r).1 hw).registered
  obtain ⟨i, hi, hnth⟩ := h.reserved r request hm
  rw [hs, h.counter] at hnth
  exact Nat.le_trans (round_of_nth_eq hi hnth.symm) h.le

end Office
end RouteNetlink
