import Mathlib.Data.List.Nodup
import RouteNetlink.Session.Task

/-! A ledger and the reservations that it gave away. What the ledger holds is told from what
has happened: who awaits a reply, and which reply each reservation got. -/
namespace RouteNetlink
namespace Ledger

/-- What happens between a ledger and those who hold its reservations. -/
inductive Event where
  | registered (reservation : Reservation)
  | delivered (reservation : Reservation) (reply : Reply)
  | released (reservation : Reservation)
  | cancelled
  deriving DecidableEq

namespace Event

def registered? : Event → Option Reservation
  | registered reservation => some reservation
  | _ => none

def recipient? : Event → Option Reservation
  | delivered reservation _ => some reservation
  | _ => none

end Event

/-- The ledgers that come about, each with what has happened before. A reservation may be
dropped once it was given away. -/
inductive History : List Event → Ledger → Prop where
  | empty : History [] empty
  | register {past : List Event} {ledger next : Ledger} {sequence : UInt32}
      {reservation : Reservation} (h : History past ledger)
      (hr : ledger.register sequence = .ok (reservation, next)) :
      History (past ++ [.registered reservation]) next
  | resolve {past : List Event} {ledger next : Ledger} {reply : Reply}
      {reservation : Reservation} (h : History past ledger)
      (hw : ledger.waiter? reply.request.sequence = some reservation)
      (hr : ledger.resolve reply = some next) :
      History (past ++ [.delivered reservation reply]) next
  | release {past : List Event} {ledger : Ledger} {reservation : Reservation}
      (h : History past ledger) (hr : .registered reservation ∈ past) :
      History (past ++ [.released reservation]) (ledger.drop reservation)
  | cancel {past : List Event} {ledger : Ledger} (h : History past ledger) :
      History (past ++ [.cancelled]) ledger.cancelAll

/-- A reservation that is neither answered nor cancelled. -/
structure Open (past : List Event) (reservation : Reservation) : Prop where
  unanswered : ∀ reply, .delivered reservation reply ∉ past
  uncancelled : .cancelled ∉ past

/-- A reservation that was given away and still awaits its reply. -/
structure Awaits (past : List Event) (reservation : Reservation) : Prop where
  registered : .registered reservation ∈ past
  kept : .released reservation ∉ past
  isOpen : Open past reservation

section Awaits

variable {past : List Event} {r w : Reservation}

/-- Who awaits a reply once another reservation was given away. -/
theorem awaits_registered (hk : .released w ∉ past) (hu : ∀ reply, .delivered w reply ∉ past)
    (hc : .cancelled ∉ past) :
    Awaits (past ++ [.registered w]) r ↔ r = w ∨ Awaits past r := by
  constructor
  · rintro ⟨hm, hk', hu', hc'⟩
    rcases List.mem_append.1 hm with hm | hm
    · exact .inr ⟨hm, by simpa using hk', by simpa using hu', by simpa using hc'⟩
    · exact .inl (by simpa using hm)
  · rintro (rfl | ⟨hm, hk', hu', hc'⟩)
    · exact ⟨by simp, by simpa using hk, by simpa using hu, by simpa using hc⟩
    · exact ⟨by simp [hm], by simpa using hk', by simpa using hu', by simpa using hc'⟩

/-- Whoever got a reply awaits none any more. -/
theorem awaits_delivered {reply : Reply} :
    Awaits (past ++ [.delivered w reply]) r ↔ r ≠ w ∧ Awaits past r := by
  constructor
  · rintro ⟨hm, hk, hu, hc⟩
    have hne : r ≠ w := fun he => hu reply (by simp [he])
    exact ⟨hne, by simpa using hm, by simpa using hk, by simpa [hne] using hu,
      by simpa using hc⟩
  · rintro ⟨hne, hm, hk, hu, hc⟩
    exact ⟨by simpa using hm, by simpa using hk, by simpa [hne] using hu, by simpa using hc⟩

theorem awaits_released : Awaits (past ++ [.released w]) r ↔ r ≠ w ∧ Awaits past r := by
  constructor
  · rintro ⟨hm, hk, hu, hc⟩
    have hne : r ≠ w := fun he => hk (by simp [he])
    exact ⟨hne, by simpa using hm, by simpa [hne] using hk, by simpa using hu,
      by simpa using hc⟩
  · rintro ⟨hne, hm, hk, hu, hc⟩
    exact ⟨by simpa using hm, by simpa [hne] using hk, by simpa using hu, by simpa using hc⟩

end Awaits

theorem waiter?_eq_some {ledger : Ledger} {sequence : UInt32} {reservation : Reservation}
    (h : ledger.waiter? sequence = some reservation) :
    reservation ∈ ledger.waiters ∧ reservation.sequence = sequence := by
  have hs := List.find?_some h
  exact ⟨List.mem_of_find?_eq_some h, by simpa using hs⟩

theorem waiter?_eq_none {ledger : Ledger} {sequence : UInt32} :
    ledger.waiter? sequence = none ↔
      ∀ reservation ∈ ledger.waiters, reservation.sequence ≠ sequence := by
  simp [waiter?]

/-- What registering does, when it succeeds. -/
theorem of_register {ledger next : Ledger} {sequence : UInt32} {reservation : Reservation}
    (h : ledger.register sequence = .ok (reservation, next)) :
    ledger.closed = false ∧ ledger.waiter? sequence = none ∧
      reservation = ⟨sequence, ledger.nextToken⟩ ∧
      next = { ledger with
        waiters := reservation :: ledger.waiters, nextToken := ledger.nextToken + 1 } := by
  unfold register at h
  split_ifs at h with hc hw
  cases h
  exact ⟨by simpa using hc, by simpa using hw, rfl, rfl⟩

/-- What resolving does, when somebody awaits the reply. -/
theorem of_resolve {ledger next : Ledger} {reply : Reply} {reservation : Reservation}
    (hw : ledger.waiter? reply.request.sequence = some reservation)
    (h : ledger.resolve reply = some next) :
    next = { ledger with
      waiters := ledger.waiters.erase reservation
      answers := (reservation.token, reply) :: ledger.answers } := by
  rw [resolve, hw] at h
  exact (Option.some.inj h).symm

theorem lookup_filter_ne {answers : List (Nat × Reply)} {token other : Nat}
    (h : token ≠ other) :
    (answers.filter fun answer => answer.1 ≠ other).lookup token = answers.lookup token := by
  induction answers with
  | nil => rfl
  | cons answer answers ih =>
    obtain ⟨key, reply⟩ := answer
    by_cases ho : key = other
    · subst ho
      have hk : (token == key) = false := by simpa using h
      rw [List.filter_cons_of_neg (by simp), ih, List.lookup_cons, hk]
    · rw [List.filter_cons_of_pos (by simpa using ho), List.lookup_cons, List.lookup_cons, ih]

theorem lookup_filter_self (answers : List (Nat × Reply)) (token : Nat) :
    (answers.filter fun answer => answer.1 ≠ token).lookup token = none := by
  rw [List.lookup_eq_none_iff]
  intro answer h
  have hne : answer.1 ≠ token := of_decide_eq_true (List.mem_filter.1 h).2
  exact bne_iff_ne.2 hne.symm

/-- How the parts of a ledger follow from what has happened. -/
structure Tied (past : List Event) (ledger : Ledger) : Prop where
  tokens : (past.filterMap Event.registered?).Pairwise fun r r' => r.token < r'.token
  token_lt : ∀ r, .registered r ∈ past → r.token < ledger.nextToken
  answer_lt : ∀ answer ∈ ledger.answers, answer.1 < ledger.nextToken
  waits : ∀ r, r ∈ ledger.waiters ↔ Awaits past r
  sequences : (ledger.waiters.map Reservation.sequence).Nodup
  closed : ledger.closed = true ↔ .cancelled ∈ past
  recipients : (past.filterMap Event.recipient?).Nodup
  addressed : ∀ r reply, .delivered r reply ∈ past →
    .registered r ∈ past ∧ reply.request.sequence = r.sequence
  released : ∀ r, .released r ∈ past → .registered r ∈ past
  answer : ∀ r reply, .registered r ∈ past →
    (ledger.answers.lookup r.token = some reply ↔
      .delivered r reply ∈ past ∧ .released r ∉ past)

theorem Event.mem_registered {past : List Event} {r : Reservation} :
    r ∈ past.filterMap Event.registered? ↔ .registered r ∈ past := by
  simp only [List.mem_filterMap]
  constructor
  · rintro ⟨e, he, hr⟩
    cases e <;> simp_all [Event.registered?]
  · exact fun h => ⟨_, h, rfl⟩

theorem Event.mem_recipients {past : List Event} {r : Reservation} :
    r ∈ past.filterMap Event.recipient? ↔ ∃ reply, .delivered r reply ∈ past := by
  simp only [List.mem_filterMap]
  constructor
  · rintro ⟨e, he, hr⟩
    cases e <;> simp_all [Event.recipient?]
    exact ⟨_, he⟩
  · rintro ⟨reply, h⟩
    exact ⟨_, h, rfl⟩

namespace Tied

variable {past : List Event} {ledger next : Ledger}

theorem empty : Tied [] empty where
  tokens := .nil
  token_lt := by simp
  answer_lt := by simp [Ledger.empty]
  waits := fun _ => ⟨nofun, fun h => nomatch h.registered⟩
  sequences := .nil
  closed := by simp [Ledger.empty]
  recipients := .nil
  addressed := by simp
  released := by simp
  answer := by simp

/-- Tokens tell reservations apart. -/
theorem token_inj (h : Tied past ledger) {r r' : Reservation} (hr : .registered r ∈ past)
    (hr' : .registered r' ∈ past) (ht : r.token = r'.token) : r = r' := by
  have hn : ((past.filterMap Event.registered?).map Reservation.token).Nodup :=
    List.pairwise_map.2 (h.tokens.imp Nat.ne_of_lt)
  exact List.inj_on_of_nodup_map hn (Event.mem_registered.2 hr) (Event.mem_registered.2 hr') ht

/-- A number is awaited by one reservation at most. -/
theorem waiter?_iff (h : Tied past ledger) {sequence : UInt32} {r : Reservation} :
    ledger.waiter? sequence = some r ↔ Awaits past r ∧ r.sequence = sequence := by
  rw [← h.waits]
  constructor
  · exact waiter?_eq_some
  · rintro ⟨hm, rfl⟩
    cases hw : ledger.waiter? r.sequence with
    | none => exact absurd rfl (waiter?_eq_none.1 hw r hm)
    | some r' =>
      obtain ⟨hm', hs⟩ := waiter?_eq_some hw
      rw [List.inj_on_of_nodup_map h.sequences hm' hm hs]

/-- What is given away next was never given away before. -/
theorem fresh_register (h : Tied past ledger) {sequence : UInt32} {w : Reservation}
    (hr : ledger.register sequence = .ok (w, next)) : .registered w ∉ past := by
  intro hm
  have := h.token_lt w hm
  simp [(of_register hr).2.2.1] at this

theorem register (h : Tied past ledger) {sequence : UInt32} {w : Reservation}
    (hr : ledger.register sequence = .ok (w, next)) :
    Tied (past ++ [.registered w]) next := by
  have hfresh := h.fresh_register hr
  obtain ⟨hopen, hfree, hw, rfl⟩ := of_register hr
  have huncancelled : .cancelled ∉ past := by simp [← h.closed, hopen]
  have hunanswered : ∀ reply, .delivered w reply ∉ past :=
    fun reply hm => hfresh (h.addressed w reply hm).1
  have hkept : .released w ∉ past := fun hm => hfresh (h.released w hm)
  exact
    { tokens := by
        rw [List.filterMap_append]
        refine List.pairwise_append.2 ⟨h.tokens, by simp [Event.registered?], ?_⟩
        intro r hm r' hm'
        obtain rfl : r' = w := by simpa [List.filterMap_cons, Event.registered?] using hm'
        have := h.token_lt r (Event.mem_registered.1 hm)
        simpa [hw] using this
      token_lt := by
        intro r hm
        rcases List.mem_append.1 hm with hm | hm
        · exact Nat.lt_succ_of_lt (h.token_lt r hm)
        · obtain rfl : r = w := by simpa using hm
          simp [hw]
      answer_lt := fun answer hm => Nat.lt_succ_of_lt (h.answer_lt answer hm)
      waits := by
        intro r
        rw [List.mem_cons, h.waits, awaits_registered hkept hunanswered huncancelled]
      sequences := by
        have hnew : sequence ∉ ledger.waiters.map Reservation.sequence := by
          simpa using waiter?_eq_none.1 hfree
        simpa [hw] using ⟨by simpa using hnew, h.sequences⟩
      closed := by simp [h.closed]
      recipients := by simpa [List.filterMap_cons, Event.recipient?] using h.recipients
      addressed := by
        intro r reply hm
        obtain ⟨hr, hs⟩ := h.addressed r reply (by simpa using hm)
        exact ⟨by simp [hr], hs⟩
      released := by
        intro r hm
        exact List.mem_append_left _ (h.released r (by simpa using hm))
      answer := by
        intro r reply hm
        rcases List.mem_append.1 hm with hm | hm
        · simpa using h.answer r reply hm
        · obtain rfl : r = w := by simpa using hm
          have hnone : ledger.answers.lookup r.token = none := by
            rw [List.lookup_eq_none_iff]
            intro answer ha
            have := h.answer_lt answer ha
            exact bne_iff_ne.2 (by simp only [hw]; omega)
          simp [hnone, hunanswered] }

theorem resolve (h : Tied past ledger) {reply : Reply} {w : Reservation}
    (hw : ledger.waiter? reply.request.sequence = some w)
    (hr : ledger.resolve reply = some next) :
    Tied (past ++ [.delivered w reply]) next := by
  obtain rfl := of_resolve hw hr
  obtain ⟨hwaits, hsequence⟩ := h.waiter?_iff.1 hw
  have hnodup : ledger.waiters.Nodup := h.sequences.of_map
  exact
    { tokens := by simpa [List.filterMap_cons, Event.registered?] using h.tokens
      token_lt := by simpa using h.token_lt
      answer_lt := by
        intro answer hm
        rcases List.mem_cons.1 hm with rfl | hm
        · exact h.token_lt w hwaits.registered
        · exact h.answer_lt answer hm
      waits := by
        intro r
        rw [hnodup.mem_erase_iff, h.waits, awaits_delivered]
      sequences := (h.sequences.sublist (List.erase_sublist.map _))
      closed := by simp [h.closed]
      recipients := by
        have hnew : w ∉ past.filterMap Event.recipient? := fun hm => by
          obtain ⟨reply', hm⟩ := Event.mem_recipients.1 hm
          exact hwaits.isOpen.unanswered reply' hm
        rw [List.filterMap_append]
        refine List.nodup_append.2 ⟨h.recipients, by simp [Event.recipient?], ?_⟩
        rintro r hm r' hm' rfl
        obtain rfl : r = w := by simpa [List.filterMap_cons, Event.recipient?] using hm'
        exact hnew hm
      addressed := by
        intro r reply' hm
        rcases List.mem_append.1 hm with hm | hm
        · exact (h.addressed r reply' hm).imp_left (List.mem_append_left _)
        · obtain ⟨rfl, rfl⟩ : r = w ∧ reply' = reply := by simpa using hm
          exact ⟨List.mem_append_left _ hwaits.registered, hsequence.symm⟩
      released := by simpa using h.released
      answer := by
        intro r reply' hm
        have hm : .registered r ∈ past := by simpa using hm
        rw [List.lookup_cons]
        by_cases he : r = w
        · subst he
          have hun := hwaits.isOpen.unanswered reply'
          simp [hun, hwaits.kept, eq_comm]
        · have hk : (r.token == w.token) = false :=
            beq_false_of_ne fun ht => he (h.token_inj hm hwaits.registered ht)
          simpa [hk, he] using h.answer r reply' hm }

theorem release (h : Tied past ledger) {w : Reservation} (hw : .registered w ∈ past) :
    Tied (past ++ [.released w]) (ledger.drop w) := by
  have hnodup : ledger.waiters.Nodup := h.sequences.of_map
  exact
    { tokens := by simpa [List.filterMap_cons, Event.registered?] using h.tokens
      token_lt := by simpa [drop] using h.token_lt
      answer_lt := by
        intro answer hm
        exact h.answer_lt answer (List.mem_filter.1 hm).1
      waits := by
        intro r
        simp only [drop]
        rw [hnodup.mem_erase_iff, h.waits, awaits_released]
      sequences := (h.sequences.sublist (List.erase_sublist.map _))
      closed := by simp [h.closed, drop]
      recipients := by simpa [List.filterMap_cons, Event.recipient?] using h.recipients
      addressed := by simpa using h.addressed
      released := by
        intro r hm
        rcases List.mem_append.1 hm with hm | hm
        · exact List.mem_append_left _ (h.released r hm)
        · obtain rfl : r = w := by simpa using hm
          exact List.mem_append_left _ hw
      answer := by
        intro r reply hm
        have hm : .registered r ∈ past := by simpa using hm
        simp only [drop]
        by_cases he : r = w
        · subst he
          rw [lookup_filter_self]
          simp
        · have hk : r.token ≠ w.token := fun ht => he (h.token_inj hm hw ht)
          rw [lookup_filter_ne hk]
          simpa [he] using h.answer r reply hm }

theorem cancel (h : Tied past ledger) : Tied (past ++ [.cancelled]) ledger.cancelAll where
  tokens := by simpa [List.filterMap_cons, Event.registered?] using h.tokens
  token_lt := by simpa [cancelAll] using h.token_lt
  answer_lt := h.answer_lt
  waits := fun r => ⟨nofun, fun hr => absurd (by simp) hr.isOpen.uncancelled⟩
  sequences := .nil
  closed := by simp [cancelAll]
  recipients := by simpa [List.filterMap_cons, Event.recipient?] using h.recipients
  addressed := by simpa using h.addressed
  released := by simpa using h.released
  answer := by simpa using h.answer

end Tied

theorem History.tied {past : List Event} {ledger : Ledger} (h : History past ledger) :
    Tied past ledger := by
  induction h with
  | empty => exact .empty
  | register _ hr ih => exact ih.register hr
  | resolve _ hw hr ih => exact ih.resolve hw hr
  | release _ hr ih => exact ih.release hr
  | cancel _ ih => exact ih.cancel

namespace Tied

variable {past : List Event} {ledger next : Ledger}

theorem standing_eq_answered_iff (h : Tied past ledger) {r : Reservation}
    (hr : .registered r ∈ past) (hk : .released r ∉ past) {reply : Reply} :
    ledger.standing r = .answered reply ↔ .delivered r reply ∈ past := by
  have ha := h.answer r reply hr
  rw [and_iff_left hk] at ha
  rw [← ha, standing]
  cases ledger.answers.lookup r.token with
  | none => dsimp only; split <;> simp
  | some other => simp

theorem standing_eq_awaiting_iff (h : Tied past ledger) {r : Reservation}
    (hr : .registered r ∈ past) (hk : .released r ∉ past) :
    ledger.standing r = .awaiting ↔ Open past r := by
  have hw : r ∈ ledger.waiters ↔ Open past r :=
    (h.waits r).trans ⟨Awaits.isOpen, fun ho => ⟨hr, hk, ho⟩⟩
  rw [standing, ← hw]
  cases hl : ledger.answers.lookup r.token with
  | none => simp
  | some reply =>
    have hd := ((h.answer r reply hr).1 hl).1
    simpa [hw] using fun ho : Open past r => ho.unanswered reply hd

/-- A reply reaches one reservation; for every other nothing has changed. -/
theorem standing_resolve (h : Tied past ledger) {reply : Reply} {w r : Reservation}
    (hw : ledger.waiter? reply.request.sequence = some w)
    (hn : ledger.resolve reply = some next) (hr : .registered r ∈ past) :
    next.standing r = if r = w then .answered reply else ledger.standing r := by
  obtain rfl := of_resolve hw hn
  have hwaits := (h.waiter?_iff.1 hw).1
  by_cases he : r = w
  · simp [standing, he]
  · have hk : (r.token == w.token) = false :=
      beq_false_of_ne fun ht => he (h.token_inj hr hwaits.registered ht)
    simp only [standing, List.lookup_cons, hk, List.mem_erase_of_ne he, if_neg he]

/-- Dropping a reservation leaves the entry of every other, whatever its number. -/
theorem waiter?_drop (h : Tied past ledger) {r r' : Reservation} (hr : .registered r ∈ past)
    (hne : r' ≠ r) (sequence : UInt32) :
    (ledger.drop r).waiter? sequence = some r' ↔ ledger.waiter? sequence = some r' := by
  rw [(h.release hr).waiter?_iff, h.waiter?_iff, awaits_released, and_iff_right hne]

end Tied

inductive Action where
  | register (sequence : UInt32)
  | resolve (reply : Reply)
  | drop (reservation : Reservation)
  /-- Looks whether a wait is over, by its reply, by cancellation or by its deadline. -/
  | wait (reservation : Reservation) (now : Nat) (deadline? : Option Nat)
  | cancelAll

/-- The reservation that an action may end. -/
def Action.subject? : Action → Option Reservation
  | drop reservation => some reservation
  | wait reservation _ _ => some reservation
  | _ => none

/-- A ledger with the reservations that are still held. -/
structure Custody where
  ledger : Ledger
  held : List Reservation

namespace Custody

def release (custody : Custody) (reservation : Reservation) : Custody × List Event :=
  if reservation ∈ custody.held then
    (⟨custody.ledger.drop reservation, custody.held.filter (· ≠ reservation)⟩,
      [.released reservation])
  else (custody, [])

/-- What an action makes of a ledger, and what happens thereby. A number that is taken or a
reply that nobody awaits changes nothing. -/
def step (custody : Custody) : Action → Custody × List Event
  | .register sequence =>
    match custody.ledger.register sequence with
    | .ok (reservation, ledger) =>
      (⟨ledger, reservation :: custody.held⟩, [.registered reservation])
    | .error _ => (custody, [])
  | .resolve reply =>
    match custody.ledger.waiter? reply.request.sequence, custody.ledger.resolve reply with
    | some reservation, some ledger =>
      ({ custody with ledger }, [.delivered reservation reply])
    | _, _ => (custody, [])
  | .drop reservation => custody.release reservation
  | .wait reservation now deadline? =>
    if (reservation.outcome? custody.ledger now deadline?).isSome then custody.release reservation
    else (custody, [])
  | .cancelAll => ({ custody with ledger := custody.ledger.cancelAll }, [.cancelled])

def follow (state : Custody × List Event) (action : Action) : Custody × List Event :=
  ((state.1.step action).1, state.2 ++ (state.1.step action).2)

def run (actions : List Action) : Custody × List Event :=
  actions.foldl follow (⟨empty, []⟩, [])

/-- A ledger with its past, and exactly the reservations held that were not dropped. -/
structure Sound (state : Custody × List Event) : Prop where
  history : History state.2 state.1.ledger
  held : ∀ r, r ∈ state.1.held ↔ .registered r ∈ state.2 ∧ .released r ∉ state.2

namespace Sound

variable {custody : Custody} {past : List Event}

theorem release (h : Sound (custody, past)) (r : Reservation) :
    Sound ((custody.release r).1, past ++ (custody.release r).2) := by
  unfold Custody.release
  split_ifs with hr
  · refine ⟨h.history.release ((h.held r).1 hr).1, fun r' => ?_⟩
    simp only [List.mem_filter, decide_eq_true_eq]
    rw [h.held]
    simp [and_assoc]
  · simpa using h

theorem step (h : Sound (custody, past)) (action : Action) :
    Sound (follow (custody, past) action) := by
  cases action with
  | register sequence =>
    simp only [follow, Custody.step]
    split
    · rename_i r ledger hr
      have hfresh := h.history.tied.fresh_register hr
      refine ⟨h.history.register hr, fun r' => ?_⟩
      simp only [List.mem_cons]
      rw [h.held]
      constructor
      · rintro (rfl | ⟨hm, hk⟩)
        · exact ⟨by simp, by simpa using fun hm => hfresh (h.history.tied.released _ hm)⟩
        · exact ⟨by simp [hm], by simpa using hk⟩
      · rintro ⟨hm, hk⟩
        rcases List.mem_append.1 hm with hm | hm
        · exact .inr ⟨hm, by simpa using hk⟩
        · exact .inl (by simpa using hm)
    · simpa using h
  | resolve reply =>
    simp only [follow, Custody.step]
    split
    · rename_i w ledger hw hr
      exact ⟨h.history.resolve hw hr, fun r => by simpa using h.held r⟩
    · simpa using h
  | drop r => exact h.release r
  | wait r now deadline? =>
    simp only [follow, Custody.step]
    split
    · exact h.release r
    · simpa using h
  | cancelAll => exact ⟨h.history.cancel, fun r => by simpa [follow, Custody.step] using h.held r⟩

theorem run (actions : List Action) : Sound (Custody.run actions) := by
  suffices ∀ state, Sound state → Sound (actions.foldl follow state) from
    this _ ⟨.empty, by simp⟩
  induction actions with
  | nil => exact fun _ h => h
  | cons action actions ih => exact fun state h => ih _ (h.step action)

end Sound

/-- A ledger and the reservations held match one to one. -/
structure Matched (custody : Custody) (past : List Event) : Prop where
  /-- A number has an entry exactly if a reservation with it is held and open; the entry is
  then that reservation's. -/
  entry_iff : ∀ sequence r, custody.ledger.waiter? sequence = some r ↔
    r ∈ custody.held ∧ r.sequence = sequence ∧ Open past r
  single : (custody.ledger.waiters.map Reservation.sequence).Nodup
  /-- No two reservations share a token, not even one after the other. -/
  tokens : ((past.filterMap Event.registered?).map Reservation.token).Nodup
  once : (past.filterMap Event.recipient?).Nodup
  addressed : ∀ r reply, .delivered r reply ∈ past → reply.request.sequence = r.sequence
  /-- A holder sees the reply that came, and until then that none has come. -/
  answered_iff : ∀ r ∈ custody.held, ∀ reply,
    custody.ledger.standing r = .answered reply ↔ .delivered r reply ∈ past
  awaiting_iff : ∀ r ∈ custody.held, custody.ledger.standing r = .awaiting ↔ Open past r
  /-- A reply stays with the caller exactly if no open reservation has its number. -/
  resolve_eq_none_iff : ∀ reply, custody.ledger.resolve reply = none ↔
    ∀ r ∈ custody.held, r.sequence = reply.request.sequence → ¬Open past r
  /-- Otherwise it reaches the one that has, and nothing changes for any other. -/
  resolve_eq_some : ∀ reply next, custody.ledger.resolve reply = some next →
    ∃ w ∈ custody.held, w.sequence = reply.request.sequence ∧ Open past w ∧
      next.standing w = .answered reply ∧
      (∀ r ∈ custody.held, r ≠ w → next.standing r = custody.ledger.standing r) ∧
      ∀ sequence r, next.waiter? sequence = some r ↔
        custody.ledger.waiter? sequence = some r ∧ r ≠ w
  /-- The end of a reservation takes no entry but its own. -/
  others_kept : ∀ action r, action.subject? = some r → ∀ sequence, ∀ r' ≠ r,
    (custody.step action).1.ledger.waiter? sequence = some r' ↔
      custody.ledger.waiter? sequence = some r'

namespace Sound

variable {custody : Custody} {past : List Event}

theorem entry_iff (h : Sound (custody, past)) (sequence : UInt32) (r : Reservation) :
    custody.ledger.waiter? sequence = some r ↔
      r ∈ custody.held ∧ r.sequence = sequence ∧ Open past r := by
  rw [h.history.tied.waiter?_iff, h.held]
  constructor
  · rintro ⟨⟨hr, hk, ho⟩, hs⟩
    exact ⟨⟨hr, hk⟩, hs, ho⟩
  · rintro ⟨⟨hr, hk⟩, hs, ho⟩
    exact ⟨⟨hr, hk, ho⟩, hs⟩

theorem resolve_eq_none_iff (h : Sound (custody, past)) (reply : Reply) :
    custody.ledger.resolve reply = none ↔
      ∀ r ∈ custody.held, r.sequence = reply.request.sequence → ¬Open past r := by
  have hnone : custody.ledger.resolve reply = none ↔
      ∀ r, custody.ledger.waiter? reply.request.sequence ≠ some r := by
    rw [resolve, Option.map_eq_none_iff, Option.eq_none_iff_forall_ne_some]
  rw [hnone]
  refine forall_congr' fun r => ?_
  rw [ne_eq, h.entry_iff]
  simp only [not_and]

theorem resolve_eq_some (h : Sound (custody, past)) {reply : Reply} {next : Ledger}
    (hn : custody.ledger.resolve reply = some next) :
    ∃ w ∈ custody.held, w.sequence = reply.request.sequence ∧ Open past w ∧
      next.standing w = .answered reply ∧
      (∀ r ∈ custody.held, r ≠ w → next.standing r = custody.ledger.standing r) ∧
      ∀ sequence r, next.waiter? sequence = some r ↔
        custody.ledger.waiter? sequence = some r ∧ r ≠ w := by
  obtain ⟨w, hw, -⟩ := Option.map_eq_some_iff.1 hn
  obtain ⟨hm, hs, ho⟩ := (h.entry_iff _ _).1 hw
  have tied := h.history.tied
  have tied' := tied.resolve hw hn
  refine ⟨w, hm, hs, ho, ?_, fun r hr hne => ?_, fun sequence r => ?_⟩
  · rw [tied.standing_resolve hw hn ((h.held w).1 hm).1, if_pos rfl]
  · rw [tied.standing_resolve hw hn ((h.held r).1 hr).1, if_neg hne]
  · rw [tied'.waiter?_iff, tied.waiter?_iff, ← tied'.waits, ← tied.waits, of_resolve hw hn,
      tied.sequences.of_map.mem_erase_iff]
    tauto

theorem waiter?_release (h : Sound (custody, past)) {r r' : Reservation} (hne : r' ≠ r)
    (sequence : UInt32) :
    (custody.release r).1.ledger.waiter? sequence = some r' ↔
      custody.ledger.waiter? sequence = some r' := by
  unfold Custody.release
  split_ifs with hr
  · exact h.history.tied.waiter?_drop ((h.held r).1 hr).1 hne sequence
  · rfl

theorem others_kept (h : Sound (custody, past)) {action : Action} {r r' : Reservation}
    (hr : action.subject? = some r) (hne : r' ≠ r) (sequence : UInt32) :
    (custody.step action).1.ledger.waiter? sequence = some r' ↔
      custody.ledger.waiter? sequence = some r' := by
  cases action with
  | register | resolve | cancelAll => cases hr
  | drop =>
    cases hr
    exact h.waiter?_release hne sequence
  | wait =>
    cases hr
    simp only [Custody.step]
    split
    · exact h.waiter?_release hne sequence
    · rfl

end Sound

/-- After whatever was done with a ledger, it matches the reservations held one to one. -/
theorem matched_run (actions : List Action) : Matched (run actions).1 (run actions).2 := by
  have h := Sound.run actions
  have tied := h.history.tied
  exact
    { entry_iff := h.entry_iff
      single := tied.sequences
      tokens := List.pairwise_map.2 (tied.tokens.imp Nat.ne_of_lt)
      once := tied.recipients
      addressed := fun r reply hm => (tied.addressed r reply hm).2
      answered_iff := fun r hr reply =>
        tied.standing_eq_answered_iff ((h.held r).1 hr).1 ((h.held r).1 hr).2
      awaiting_iff := fun r hr =>
        tied.standing_eq_awaiting_iff ((h.held r).1 hr).1 ((h.held r).1 hr).2
      resolve_eq_none_iff := h.resolve_eq_none_iff
      resolve_eq_some := fun _ _ => h.resolve_eq_some
      others_kept := fun _ _ hr sequence _ hne => h.others_kept hr hne sequence }

end Custody
end Ledger
end RouteNetlink
