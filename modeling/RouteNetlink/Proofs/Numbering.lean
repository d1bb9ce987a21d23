import Mathlib.Data.List.Nodup
import RouteNetlink.Proofs.Entries

/-! The numbers that requests get. As long as the counter does not come round, no number is
given twice, and a reservation has the number of its own request. -/
namespace RouteNetlink

namespace TransmitBuffer

theorem toNat_successor {sequence : UInt32} (h : sequence.toNat + 1 < UInt32.size) :
    (successor sequence).toNat = sequence.toNat + 1 := by
  have hs : (sequence + 1).toNat = sequence.toNat + 1 := by
    rw [UInt32.toNat_add, UInt32.toNat_one]
    exact Nat.mod_eq_of_lt h
  unfold successor
  split
  · rename_i hz
    rw [hz] at hs
    cases hs
  · exact hs

end TransmitBuffer

namespace Message

/-- A message that comes without a number gets the next one. -/
theorem sequence_stamped {message : Message} (h : message.header.sequence = 0)
    (buffer : TransmitBuffer) : (message.stamped buffer).header.sequence = buffer.nextSequence := by
  simp [stamped, TransmitBuffer.stamped, h]

theorem counter_holding {message : Message} (h : message.header.sequence = 0)
    (buffer : TransmitBuffer) :
    (buffer.holding message).nextSequence = TransmitBuffer.successor buffer.nextSequence := by
  simp [TransmitBuffer.holding, TransmitBuffer.counted, h]

end Message

namespace Office

/-- A message that leaves the choice of its number to the session. -/
def Unnumbered (message : Message) : Prop := message.header.sequence = 0

def Event.framed? : Event → Option (Purpose × Message)
  | .framed purpose message => some (purpose, message)
  | _ => none

/-- The requests that were framed. -/
def framed (trace : List Event) : List (Purpose × Message) := trace.filterMap Event.framed?

def Event.isFraming : Event → Bool
  | .framed .. | .refused _ => true
  | _ => false

/-- How often a message was framed or refused. -/
def framings (trace : List Event) : Nat := trace.countP Event.isFraming

@[simp] theorem framed_append (past events : List Event) :
    framed (past ++ events) = framed past ++ framed events := List.filterMap_append ..

@[simp] theorem framings_append (past events : List Event) :
    framings (past ++ events) = framings past + framings events := List.countP_append

theorem mem_framed {trace : List Event} {purpose : Purpose} {message : Message} :
    (purpose, message) ∈ framed trace ↔ .framed purpose message ∈ trace := by
  simp only [framed, List.mem_filterMap]
  constructor
  · rintro ⟨event, hm, he⟩
    unfold Event.framed? at he
    split at he <;> cases he
    exact hm
  · exact fun h => ⟨_, h, rfl⟩

def number (request : Purpose × Message) : UInt32 := request.2.header.sequence

/-- Which numbers are given away. -/
structure Numbered (past : List Event) (office : Office) : Prop where
  positive : 0 < office.session.transmit.nextSequence.toNat
  bounded : office.session.transmit.nextSequence.toNat ≤ framings past + 1
  below : ∀ request ∈ framed past, 0 < (number request).toNat ∧
    (number request).toNat < office.session.transmit.nextSequence.toNat
  increasing : (framed past).Pairwise fun request later => number request < number later
  reserved : ∀ r request, .reserved r request ∈ past →
    ∃ message, .framed .reservation message ∈ past ∧ message.header = request ∧
      r.sequence = request.sequence
  reserved_unique : ∀ r request r' request', .reserved r request ∈ past →
    .reserved r' request' ∈ past → r.sequence = r'.sequence → r = r' ∧ request = request'

theorem Numbered.new (settings : Settings) (port : UInt32) (transport : Transport) :
    Numbered [] (.new settings port transport) where
  positive := show 0 < (1 : UInt32).toNat by decide
  bounded := show (1 : UInt32).toNat ≤ 1 by decide
  below := by simp [framed]
  increasing := .nil
  reserved := by simp
  reserved_unique := by simp

variable {past events : List Event} {office next : Office}

/-- A number belongs to one request. -/
theorem Numbered.framed_unique (h : Numbered past office) {p p' : Purpose} {m m' : Message}
    (hm : .framed p m ∈ past) (hm' : .framed p' m' ∈ past)
    (hs : m.header.sequence = m'.header.sequence) : p = p' ∧ m = m' := by
  have hn : ((framed past).map number).Nodup :=
    List.pairwise_map.2 (h.increasing.imp UInt32.ne_of_lt)
  have heq := List.inj_on_of_nodup_map hn (mem_framed.2 hm) (mem_framed.2 hm') hs
  exact Prod.mk.inj heq

/-- Where no message is framed, and the counter at most goes on. -/
theorem Numbered.pass (h : Numbered past office) (hf : framed events = [])
    (hr : ∀ r request, .reserved r request ∉ events)
    (hle : office.session.transmit.nextSequence.toNat ≤
      next.session.transmit.nextSequence.toNat)
    (hb : next.session.transmit.nextSequence.toNat ≤ framings (past ++ events) + 1) :
    Numbered (past ++ events) next := by
  have hframed : framed (past ++ events) = framed past := by simp [hf]
  have hreserved : ∀ {r request}, .reserved r request ∈ past ++ events →
      .reserved r request ∈ past :=
    fun hm => (List.mem_append.1 hm).resolve_right (hr _ _)
  exact
    { positive := Nat.lt_of_lt_of_le h.positive hle
      bounded := hb
      below := by
        rw [hframed]
        exact fun request hm => ⟨(h.below request hm).1,
          Nat.lt_of_lt_of_le (h.below request hm).2 hle⟩
      increasing := by
        rw [hframed]
        exact h.increasing
      reserved := by
        intro r request hm
        obtain ⟨message, hm, hrest⟩ := h.reserved r request (hreserved hm)
        exact ⟨message, List.mem_append_left _ hm, hrest⟩
      reserved_unique :=
        fun r request r' request' hm hm' =>
          h.reserved_unique r request r' request' (hreserved hm) (hreserved hm') }

theorem Numbered.still (h : Numbered past office) (hf : framed events = [])
    (hr : ∀ r request, .reserved r request ∉ events)
    (hc : next.session.transmit.nextSequence = office.session.transmit.nextSequence) :
    Numbered (past ++ events) next := by
  have hb := h.bounded
  exact h.pass hf hr (by rw [hc]) (by rw [hc, framings_append]; omega)

/-- A message that is framed gets a number above all others. -/
theorem Numbered.frame (h : Numbered past office) {message : Message} (purpose : Purpose)
    (hm : Unnumbered message) (hfew : framings past + 2 < UInt32.size)
    (hc : next.session.transmit.nextSequence =
      TransmitBuffer.successor office.session.transmit.nextSequence) :
    Numbered (past ++ [.framed purpose (message.stamped office.session.transmit)]) next := by
  have hb := h.bounded
  have hnext : next.session.transmit.nextSequence.toNat =
      office.session.transmit.nextSequence.toNat + 1 := by
    rw [hc, TransmitBuffer.toNat_successor (by omega)]
  have hnumber : number (purpose, message.stamped office.session.transmit) =
      office.session.transmit.nextSequence := Message.sequence_stamped hm _
  have hframed : framed (past ++ [.framed purpose (message.stamped office.session.transmit)]) =
      framed past ++ [(purpose, message.stamped office.session.transmit)] := framed_append ..
  have hreserved : ∀ {r request}, .reserved r request ∈
      past ++ [.framed purpose (message.stamped office.session.transmit)] →
        .reserved r request ∈ past := fun hm => by simpa using hm
  exact
    { positive := by omega
      bounded := by
        rw [hnext, framings_append]
        exact Nat.succ_le_succ hb
      below := by
        intro request hm
        rw [hframed, List.mem_append, List.mem_singleton] at hm
        rcases hm with hm | rfl
        · have := h.below request hm
          omega
        · have := h.positive
          rw [hnumber]
          omega
      increasing := by
        rw [hframed]
        refine List.pairwise_append.2 ⟨h.increasing, List.pairwise_singleton .., ?_⟩
        intro request hm later hl
        obtain rfl := List.mem_singleton.1 hl
        rw [hnumber, UInt32.lt_iff_toNat_lt]
        exact (h.below request hm).2
      reserved := by
        intro r request hm
        obtain ⟨message, hm, hrest⟩ := h.reserved r request (hreserved hm)
        exact ⟨message, List.mem_append_left _ hm, hrest⟩
      reserved_unique :=
        fun r request r' request' hm hm' =>
          h.reserved_unique r request r' request' (hreserved hm) (hreserved hm') }

/-- A message that is refused may use up a number. -/
theorem Numbered.refuse (h : Numbered past office) {fault : Fault}
    (hfew : framings past + 2 < UInt32.size)
    (hb : office.session.transmit.Spared next.session.transmit) :
    Numbered (past ++ [.refused fault]) next := by
  have hbounded := h.bounded
  have hframings : framings (past ++ [.refused fault]) = framings past + 1 := framings_append ..
  rcases hb.counter with hc | hc
  · exact h.pass rfl (by simp) (by rw [hc]) (by rw [hc, hframings]; omega)
  · have hnext : next.session.transmit.nextSequence.toNat =
        office.session.transmit.nextSequence.toNat + 1 := by
      rw [hc, TransmitBuffer.toNat_successor (by omega)]
    exact h.pass rfl (by simp) (by omega) (by omega)

/-- A reply is reserved under the number of its request. -/
theorem Numbered.reserve (h : Numbered past office) {r : Reservation} {message : Message}
    (hm : .framed .reservation message ∈ past) (hs : r.sequence = message.header.sequence)
    (hfresh : ∀ r' request, .reserved r' request ∈ past → r'.sequence ≠ message.header.sequence)
    (hc : next.session.transmit.nextSequence = office.session.transmit.nextSequence) :
    Numbered (past ++ [.reserved r message.header]) next := by
  have hframed : framed (past ++ [.reserved r message.header]) = framed past :=
    (framed_append ..).trans (List.append_nil _)
  have hframings : framings (past ++ [.reserved r message.header]) = framings past :=
    framings_append ..
  have hcases : ∀ {r' request}, .reserved r' request ∈ past ++ [.reserved r message.header] →
      .reserved r' request ∈ past ∨ r' = r ∧ request = message.header := by simp
  exact
    { positive := hc ▸ h.positive
      bounded := by rw [hc, hframings]; exact h.bounded
      below := by
        rw [hc, hframed]
        exact h.below
      increasing := by
        rw [hframed]
        exact h.increasing
      reserved := by
        intro r' request hm'
        rcases hcases hm' with hm' | ⟨rfl, rfl⟩
        · obtain ⟨other, ho, hrest⟩ := h.reserved r' request hm'
          exact ⟨other, List.mem_append_left _ ho, hrest⟩
        · exact ⟨message, List.mem_append_left _ hm, rfl, hs⟩
      reserved_unique := by
        intro r₁ request₁ r₂ request₂ h₁ h₂ heq
        rcases hcases h₁ with g₁ | ⟨rfl, rfl⟩ <;> rcases hcases h₂ with g₂ | ⟨rfl, rfl⟩
        · exact h.reserved_unique r₁ request₁ r₂ request₂ g₁ g₂ heq
        · exact absurd (heq.trans hs) (hfresh _ _ g₁)
        · exact absurd (heq.symm.trans hs) (hfresh _ _ g₂)
        · exact ⟨rfl, rfl⟩ }

/-- Nobody has yet reserved the reply to the next request. -/
theorem Numbered.unreserved_next (h : Numbered past office) {r : Reservation}
    {request : Header} (hm : .reserved r request ∈ past) :
    r.sequence ≠ office.session.transmit.nextSequence := by
  obtain ⟨message, hf, rfl, hs⟩ := h.reserved r request hm
  have hlt := (h.below _ (mem_framed.2 hf)).2
  intro he
  rw [hs] at he
  simp [number, he] at hlt

theorem Numbered.effect (h : Numbered past office)
    (hfew : framings (past ++ events) + 1 < UInt32.size)
    (he : Effect Unnumbered office events next) : Numbered (past ++ events) next := by
  rw [framings_append] at hfew
  cases he with
  | frame hf hg => exact h.frame .plain hg hfew (Message.counter_holding hg _)
  | ask _ _ _ _ hm =>
    subst hm
    exact h.frame _ rfl hfew (Message.counter_holding rfl _)
  | refuse _ _ hb => exact h.refuse hfew hb
  | @reserve session held message r ledger hf hs hr =>
    have hframed : Numbered _ ⟨{ session with
      transmit := session.transmit.holding message }, held⟩ :=
      h.frame .reservation hs hfew (Message.counter_holding hs _)
    have hsequence := Message.sequence_stamped hs session.transmit
    have hown : r.sequence = (message.stamped session.transmit).header.sequence := by
      rw [(Ledger.of_register hr).2.2.1]
    rw [List.append_cons]
    refine hframed.reserve (by simp) hown ?_ rfl
    intro r' request hm
    rw [hsequence]
    exact h.unreserved_next (by simpa using hm)
  | @unreserve session held message fault hf hs hk hr =>
    have hframed : Numbered _ ⟨{ session with
      transmit := session.transmit.holding message }, held⟩ :=
      h.frame .reservation hs hfew (Message.counter_holding hs _)
    rw [List.append_cons]
    exact hframed.still rfl (by simp) rfl
  | close hc =>
    rw [close_of_open hc]
    exact h.still rfl (by simp) rfl
  | @crash session held receipt =>
    obtain ⟨sequence, reservation?⟩ := receipt
    cases reservation? <;> exact h.still rfl (by simp) rfl
  | _ => exact h.still rfl (by simp) rfl

/-- A law that every effect keeps as long as numbers last holds after every run that leaves
some. -/
theorem keep_few (law : List Event → Office → Prop) {settings : Settings} {port : UInt32}
    {transport : Transport} {actions : List Action} {trace : List Event}
    (h0 : law [] (.new settings port transport))
    (hkeep : ∀ past office events next, law past office →
      framings (past ++ events) + 1 < UInt32.size → Effect Unnumbered office events next →
        law (past ++ events) next)
    (hg : ∀ action ∈ actions, action.Given Unnumbered)
    (hfew : framings trace + 1 < UInt32.size)
    (h : (Office.new settings port transport).run actions = some (office, trace)) :
    law trace office := by
  refine keep_run (fun past office => framings past + 1 < UInt32.size → law past office)
    (fun _ => h0) (fun past office events next hl he hlast => ?_) hg h hfew
  refine hkeep past office events next (hl ?_) hlast he
  rw [framings_append] at hlast
  omega

end Office
end RouteNetlink
