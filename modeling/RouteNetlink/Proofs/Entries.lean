import RouteNetlink.Proofs.Custody
import RouteNetlink.Proofs.Steps

/-! The ledger of a session told from what happened in its office. -/
namespace RouteNetlink
namespace Office

def Event.entry? : Event → Option Ledger.Event
  | .reserved reservation _ => some (.registered reservation)
  | .took _ _ _ (.delivered reservation reply) => some (.delivered reservation reply)
  | .released reservation => some (.released reservation)
  | .closed => some .cancelled
  | .stopped _ => some .cancelled
  | _ => none

/-- The history of the ledger within a trace. -/
def entries (trace : List Event) : List Ledger.Event := trace.filterMap Event.entry?

@[simp] theorem entries_append (past events : List Event) :
    entries (past ++ events) = entries past ++ entries events := List.filterMap_append ..

@[simp] theorem entries_nil : entries [] = [] := rfl

@[simp] theorem entries_cons (event : Event) (events : List Event) :
    entries (event :: events) = event.entry?.toList ++ entries events := by
  rw [entries, List.filterMap_cons]
  cases event.entry? <;> rfl

theorem registered_mem_entries {trace : List Event} {r : Reservation} :
    .registered r ∈ entries trace ↔ ∃ request, .reserved r request ∈ trace := by
  constructor
  · intro h
    obtain ⟨event, hm, he⟩ := List.mem_filterMap.1 h
    unfold Event.entry? at he
    split at he <;> cases he
    exact ⟨_, hm⟩
  · rintro ⟨request, h⟩
    exact List.mem_filterMap.2 ⟨_, h, rfl⟩

theorem released_mem_entries {trace : List Event} {r : Reservation} :
    .released r ∈ entries trace ↔ .released r ∈ trace := by
  constructor
  · intro h
    obtain ⟨event, hm, he⟩ := List.mem_filterMap.1 h
    unfold Event.entry? at he
    split at he <;> cases he
    exact hm
  · exact fun h => List.mem_filterMap.2 ⟨_, h, rfl⟩

theorem delivered_mem_entries {trace : List Event} {r : Reservation} {reply : Reply} :
    .delivered r reply ∈ entries trace ↔
      ∃ phase item namespaceId?, .took phase item namespaceId? (.delivered r reply) ∈ trace := by
  constructor
  · intro h
    obtain ⟨event, hm, he⟩ := List.mem_filterMap.1 h
    unfold Event.entry? at he
    split at he <;> cases he
    exact ⟨_, _, _, hm⟩
  · rintro ⟨phase, item, namespaceId?, h⟩
    exact List.mem_filterMap.2 ⟨_, h, rfl⟩

theorem cancelled_mem_entries {trace : List Event} :
    .cancelled ∈ entries trace ↔ .closed ∈ trace ∨ ∃ result, .stopped result ∈ trace := by
  constructor
  · intro h
    obtain ⟨event, hm, he⟩ := List.mem_filterMap.1 h
    unfold Event.entry? at he
    split at he <;> cases he
    · exact .inl hm
    · exact .inr ⟨_, hm⟩
  · rintro (h | ⟨result, h⟩) <;> exact List.mem_filterMap.2 ⟨_, h, rfl⟩

/-- The reservation of the flush under way, which no caller has yet. -/
def pending? (session : Session) : Option Reservation :=
  session.flight?.bind (·.receipt.reservation?)

/-- Ledger and reservations are as the past made them. -/
structure Booked (past : List Event) (office : Office) : Prop where
  steady : Steady office.session
  history : Ledger.History (entries past) office.session.ledger
  alive : ∀ r, r ∈ office.held ∨ pending? office.session = some r ↔
    .registered r ∈ entries past ∧ .released r ∉ entries past
  unheld : ∀ r, pending? office.session = some r → r ∉ office.held
  closed_iff : office.session.closed = true ↔ .closed ∈ past
  stopped : ∀ result, .stopped result ∈ past → office.session.receiving = .stopped result

variable {given : Message → Prop} {past events : List Event} {office next : Office}

theorem Booked.new (settings : Settings) (port : UInt32) (transport : Transport) :
    Booked [] (.new settings port transport) where
  steady := .new ..
  history := .empty
  alive := by simp [Office.new, Session.new, pending?]
  unheld := by simp [Office.new]
  closed_iff := by simp [Office.new, Session.new]
  stopped := by simp

theorem Booked.mem_entries (h : Booked past office) {r : Reservation} (hr : r ∈ office.held) :
    .registered r ∈ entries past := ((h.alive r).1 (.inl hr)).1

/-- A holder sees the reply that was delivered to it, and until then none. -/
theorem Booked.answered_iff (h : Booked past office) {r : Reservation} (hr : r ∈ office.held)
    (reply : Reply) : office.session.ledger.standing r = .answered reply ↔
      .delivered r reply ∈ entries past := by
  obtain ⟨hregistered, hkept⟩ := (h.alive r).1 (.inl hr)
  exact h.history.tied.standing_eq_answered_iff hregistered hkept

theorem close_of_open {session : Session} (hc : session.closed = false) :
    session.close = { session with
      closed := true
      stream := if session.stream.outlet = .kept then session.stream.shut else session.stream
      ledger := session.ledger.cancelAll } := by
  simp [Session.close, hc]

theorem Booked.history_effect (h : Booked past office)
    (he : Effect given office events next) :
    Ledger.History (entries (past ++ events)) next.session.ledger := by
  cases he with
  | reserve _ _ hr => simpa [Event.entry?] using h.history.register hr
  | @crash session held receipt left fault hf =>
    cases hr : receipt.reservation? with
    | none => simpa [Event.entry?, hr] using h.history
    | some r =>
      have hp : pending? session = some r := by simp [pending?, hf, hr]
      simpa [Event.entry?, hr] using h.history.release ((h.alive r).1 (.inr hp)).1
  | deliver _ _ _ _ hw hr => simpa [Event.entry?] using h.history.resolve hw hr
  | founder | exhaust | stop => simpa [Event.entry?, Session.stop] using h.history.cancel
  | close hc =>
    rw [close_of_open hc]
    simpa [Event.entry?] using h.history.cancel
  | release hr =>
    simpa [Event.entry?, Office.release, Session.dropReservation] using
      h.history.release (h.mem_entries hr)
  | _ => simpa [Event.entry?] using h.history

theorem Booked.alive_effect (h : Booked past office)
    (he : Effect given office events next) (r : Reservation) :
    r ∈ next.held ∨ pending? next.session = some r ↔
      .registered r ∈ entries (past ++ events) ∧ .released r ∉ entries (past ++ events) := by
  have ha := h.alive r
  cases he with
  | @reserve session held message reservation ledger hf hs hr =>
    have hfresh : .registered reservation ∉ entries past :=
      h.history.tied.fresh_register hr
    have hkept : .released reservation ∉ entries past := fun hm =>
      hfresh (h.history.tied.released _ hm)
    simp only [pending?, hf, Option.bind_none, reduceCtorEq, or_false] at ha
    by_cases he : r = reservation
    · subst he
      simp [Event.entry?, pending?, hkept]
    · simp [Event.entry?, pending?, ha, he, Ne.symm he]
  | @land session held receipt hf =>
    simpa [Event.entry?, pending?, hf, or_comm] using ha
  | @crash session held receipt left fault hf =>
    cases hr : receipt.reservation? with
    | none => simpa [Event.entry?, pending?, hf, hr] using ha
    | some w =>
      have hw : w ∉ held := h.unheld w (by simp [pending?, hf, hr])
      simp only [pending?, hf, Option.bind_some, hr, Option.some.injEq] at ha
      by_cases he : r = w
      · subst he
        simp [Event.entry?, pending?, hw]
      · simpa [Event.entry?, pending?, hr, he, Ne.symm he] using ha
  | @founder session held loop turn flight fault result hl _ hph hf =>
    obtain ⟨sequence, left, hs⟩ := h.steady.sending loop turn hl hph
    have hs : session.flight? = some ⟨⟨sequence, none⟩, left⟩ := hs
    simpa [Event.entry?, pending?, Session.stop, hs] using ha
  | await _ _ hf => simpa [Event.entry?, pending?, hf] using ha
  | @release office w hr =>
    have hp : pending? (office.release w).session = pending? office.session := rfl
    have hw : pending? office.session ≠ some w := fun hw => h.unheld w hw hr
    rw [hp]
    by_cases he : r = w
    · subst he
      simp [Event.entry?, Office.release, hw]
    · simpa [Event.entry?, Office.release, he] using ha
  | launch _ hf | ask _ _ _ hf => simpa [Event.entry?, pending?, hf] using ha
  | write hf => simpa [Event.entry?, pending?, hf] using ha
  | exhaust | stop => simpa [Event.entry?, pending?, Session.stop] using ha
  | close hc =>
    rw [close_of_open hc]
    simpa [Event.entry?, pending?] using ha
  | _ => simpa [Event.entry?, pending?] using ha

theorem Booked.unheld_effect (h : Booked past office)
    (he : Effect given office events next) (r : Reservation)
    (hr : pending? next.session = some r) : r ∉ next.held := by
  cases he with
  | @reserve session held message reservation ledger hf hs hreg =>
    obtain rfl : reservation = r := by simpa [pending?] using hr
    exact fun hm => h.history.tied.fresh_register hreg (h.mem_entries hm)
  | launch | ask | land | crash | founder | await => cases hr
  | write hf => exact h.unheld r (by simpa [pending?, hf] using hr)
  | close hc =>
    rw [close_of_open hc] at hr
    exact h.unheld r hr
  | release => exact fun hm => h.unheld r hr (List.mem_filter.1 hm).1
  | _ => exact h.unheld r hr

theorem Booked.closed_iff_effect (h : Booked past office)
    (he : Effect given office events next) :
    next.session.closed = true ↔ .closed ∈ past ++ events := by
  have hc := h.closed_iff
  cases he with
  | close ho =>
    rw [close_of_open ho]
    simp
  | founder | exhaust | stop => simpa [Session.stop] using hc
  | release => simpa [Office.release, Session.dropReservation] using hc
  | _ => simpa using hc

theorem Booked.stopped_effect (h : Booked past office)
    (he : Effect given office events next) {result : Except Fault Unit}
    (hr : .stopped result ∈ past ++ events) : next.session.receiving = .stopped result := by
  have hs : .stopped result ∈ past → office.session.receiving = .stopped result :=
    h.stopped result
  -- a loop that runs has not stopped before
  have hrunning : ∀ loop, office.session.receiving = .running loop → .stopped result ∉ past := by
    intro loop hl hm
    rw [hs hm] at hl
    cases hl
  cases he with
  | founder hl | stop hl =>
    obtain rfl : result = _ := by simpa [hrunning _ hl] using hr
    rfl
  | exhaust hl =>
    obtain rfl : result = _ := by simpa [hrunning _ hl.running] using hr
    rfl
  | start _ _ hi =>
    have hf := hs (by simpa using hr)
    simp [hi] at hf
  | ask hl | await hl | forward hl => exact absurd (by simpa using hr) (hrunning _ hl)
  | drop hl | deliver hl | retry hl | push hl | receive hl =>
    exact absurd (by simpa using hr) (hrunning _ hl.running)
  | close ho =>
    rw [close_of_open ho]
    exact hs (by simpa using hr)
  | _ => exact hs (by simpa using hr)

theorem Booked.effect (h : Booked past office) (he : Effect given office events next) :
    Booked (past ++ events) next :=
  ⟨h.steady.effect he, h.history_effect he, h.alive_effect he, h.unheld_effect he,
    h.closed_iff_effect he, fun _ => h.stopped_effect he⟩

theorem booked_step {action : Action} (h : Booked past office)
    (hs : office.step action = some (next, events)) : Booked (past ++ events) next :=
  (effects_step h.steady (given_true action) hs).keep
    (fun _ _ _ _ hb he => Booked.effect hb he) past h

/-- Ledger and reservations are so after every run. -/
theorem booked_run {last : Office} {actions : List Action} {later : List Event}
    (h : Booked past office) (hr : office.run actions = some (last, later)) :
    Booked (past ++ later) last :=
  keep_steps Booked (fun _ _ _ _ _ hb hs => booked_step hb hs) h hr

end Office
end RouteNetlink
