import RouteNetlink.Proofs.Entries

/-! What the transport accepts: requests as they were framed, byte by byte, and none before
its reply is reserved. -/
namespace RouteNetlink
namespace Office

/-- What has happened since the transmit buffer was last emptied. -/
def batch (trace : List Event) : List Event :=
  trace.foldl (fun batch event =>
    match event with
    | .cleared => []
    | _ => batch ++ [event]) []

def written (trace : List Event) : List UInt8 :=
  trace.flatMap fun
    | .wrote piece => piece
    | _ => []

/-- The requests that were framed, as they are on the wire. -/
def records (trace : List Event) : List UInt8 :=
  trace.flatMap fun
    | .framed _ message => message.padded
    | _ => []

@[simp] theorem written_append (past events : List Event) :
    written (past ++ events) = written past ++ written events := List.flatMap_append ..

@[simp] theorem records_append (past events : List Event) :
    records (past ++ events) = records past ++ records events := List.flatMap_append ..

theorem written_eq_nil {events : List Event} (h : ∀ piece, .wrote piece ∉ events) :
    written events = [] := by
  refine List.flatMap_eq_nil_iff.2 fun event hm => ?_
  split
  · exact absurd hm (h _)
  · rfl

theorem records_eq_nil {events : List Event} (h : ∀ purpose message,
    .framed purpose message ∉ events) : records events = [] := by
  refine List.flatMap_eq_nil_iff.2 fun event hm => ?_
  split
  · exact absurd hm (h _ _)
  · rfl

theorem batch_append (past : List Event) {events : List Event} (h : .cleared ∉ events) :
    batch (past ++ events) = batch past ++ events := by
  induction events generalizing past with
  | nil => simp
  | cons event events ih =>
    have hevent : batch (past ++ [event]) = batch past ++ [event] := by
      unfold batch
      rw [List.foldl_append]
      cases event with
      | cleared => simp at h
      | _ => rfl
    rw [List.append_cons, ih _ (List.not_mem_of_not_mem_cons h), hevent, List.append_assoc]
    rfl

theorem batch_cleared (past : List Event) {events : List Event} (h : .cleared ∉ events) :
    batch (past ++ .cleared :: events) = events := by
  have hcleared : batch (past ++ [.cleared]) = [] := by
    unfold batch
    rw [List.foldl_append]
    rfl
  rw [List.append_cons, batch_append _ h, hcleared, List.nil_append]

/-- Bytes are accepted of what the transmit buffer holds, from the first one on; and a reply to
any request in it is reserved. -/
def Covered (past : List Event) : Event → Prop
  | .wrote piece =>
    written (batch past) ++ piece <+: records (batch past) ∧
      ∀ message, .framed .reservation message ∈ batch past →
        ∃ r, .reserved r message.header ∈ batch past
  | _ => True

/-- The transmit buffer holds what was framed, and a flush what of it is not yet accepted. -/
structure Wired (accepted : List UInt8) (past : List Event) (office : Office) : Prop where
  accepted : office.session.transport.accepted = accepted ++ written past
  framed : office.session.transmit.bytes = records (batch past)
  flying : ∀ receipt left, office.session.flight? = some ⟨receipt, left⟩ →
    written (batch past) ++ left = records (batch past)
  grounded : office.session.flight? = none → written (batch past) = []
  reserved : ∀ message, .framed .reservation message ∈ batch past →
    ∃ r, .reserved r message.header ∈ batch past
  covered : Each Covered past

variable {given : Message → Prop} {accepted : List UInt8} {past events : List Event}
  {office next : Office}

theorem Wired.new (settings : Settings) (port : UInt32) (transport : Transport) :
    Wired transport.accepted [] (.new settings port transport) where
  accepted := (List.append_nil _).symm
  framed := rfl
  flying := by simp [Office.new, Session.new]
  grounded := fun _ => rfl
  reserved := by simp [batch]
  covered := .nil

theorem accepted_of_sent {transport after : Transport} (h : after.sent = transport.sent) :
    after.accepted = transport.accepted := by rw [Transport.accepted, h, Transport.accepted]

theorem covered_append (h : Each Covered past) (hw : ∀ piece, .wrote piece ∉ events) :
    Each Covered (past ++ events) := by
  refine h.append_free fun event hm past => ?_
  cases event with
  | wrote piece => exact absurd hm (hw piece)
  | _ => trivial

/-- Where nothing is framed or sent. -/
theorem Wired.still (h : Wired accepted past office) (hc : .cleared ∉ events)
    (hw : ∀ piece, .wrote piece ∉ events)
    (hf : ∀ purpose message, .framed purpose message ∉ events)
    (ht : next.session.transport.sent = office.session.transport.sent)
    (hb : next.session.transmit.bytes = office.session.transmit.bytes)
    (hl : next.session.flight? = office.session.flight?) :
    Wired accepted (past ++ events) next := by
  have hbatch := batch_append past hc
  have hwritten : written (batch (past ++ events)) = written (batch past) := by
    rw [hbatch, written_append, written_eq_nil hw, List.append_nil]
  have hrecords : records (batch (past ++ events)) = records (batch past) := by
    rw [hbatch, records_append, records_eq_nil hf, List.append_nil]
  exact
    { accepted := by
        rw [accepted_of_sent ht, written_append, written_eq_nil hw, List.append_nil]
        exact h.accepted
      framed := by
        rw [hb, hrecords]
        exact h.framed
      flying := by
        rw [hl, hwritten, hrecords]
        exact h.flying
      grounded := by
        rw [hl, hwritten]
        exact h.grounded
      reserved := by
        rw [hbatch]
        intro message hm
        obtain ⟨r, hr⟩ := h.reserved message ((List.mem_append.1 hm).resolve_right (hf _ _))
        exact ⟨r, List.mem_append_left _ hr⟩
      covered := covered_append h.covered hw }

/-- Where the transmit buffer is emptied. -/
theorem Wired.clear (h : Wired accepted past office) (earlier : List Event)
    {later : List Event} (hw : ∀ piece, .wrote piece ∉ earlier ++ .cleared :: later)
    (hf : ∀ purpose message, .framed purpose message ∉ later) (hc : .cleared ∉ later)
    (ht : next.session.transport.sent = office.session.transport.sent)
    (hb : next.session.transmit.bytes = []) (hl : next.session.flight? = none) :
    Wired accepted (past ++ (earlier ++ .cleared :: later)) next := by
  have hbatch : batch (past ++ (earlier ++ .cleared :: later)) = later := by
    rw [← List.append_assoc, batch_cleared _ hc]
  have hlater : ∀ piece, .wrote piece ∉ later := fun piece hm =>
    hw piece (List.mem_append_right _ (List.mem_cons_of_mem _ hm))
  exact
    { accepted := by
        rw [accepted_of_sent ht, written_append, written_eq_nil hw, List.append_nil]
        exact h.accepted
      framed := by rw [hb, hbatch, records_eq_nil hf]
      flying := by simp [hl]
      grounded := by
        rw [hbatch, written_eq_nil hlater]
        exact fun _ => rfl
      reserved := by
        rw [hbatch]
        exact fun message hm => absurd hm (hf _ _)
      covered := covered_append h.covered hw }

/-- Where a message is framed, while nothing is sent. -/
theorem Wired.frame (h : Wired accepted past office) {message : Message}
    (hfree : office.session.flight? = none) (hc : .cleared ∉ events)
    (hw : ∀ piece, .wrote piece ∉ events)
    (hr : records events = (message.stamped office.session.transmit).padded)
    (hreserved : ∀ message, .framed .reservation message ∈ events →
      ∃ r, .reserved r message.header ∈ events)
    (ht : next.session.transport.sent = office.session.transport.sent)
    (hb : next.session.transmit.bytes = (office.session.transmit.holding message).bytes)
    (hl : ∀ receipt left, next.session.flight? = some ⟨receipt, left⟩ →
      left = (office.session.transmit.holding message).bytes) :
    Wired accepted (past ++ events) next := by
  have hbatch := batch_append past hc
  have hwritten : written (batch (past ++ events)) = [] := by
    rw [hbatch, written_append, written_eq_nil hw, h.grounded hfree, List.append_nil]
  have hrecords : records (batch (past ++ events)) =
      (office.session.transmit.holding message).bytes := by
    rw [hbatch, records_append, hr, ← h.framed]
    rfl
  exact
    { accepted := by
        rw [accepted_of_sent ht, written_append, written_eq_nil hw, List.append_nil]
        exact h.accepted
      framed := by rw [hb, hrecords]
      flying := by
        intro receipt left hflight
        rw [hwritten, hrecords, hl receipt left hflight, List.nil_append]
      grounded := fun _ => hwritten
      reserved := by
        rw [hbatch]
        intro message hm
        rcases List.mem_append.1 hm with hm | hm
        · obtain ⟨r, hr⟩ := h.reserved message hm
          exact ⟨r, List.mem_append_left _ hr⟩
        · obtain ⟨r, hr⟩ := hreserved message hm
          exact ⟨r, List.mem_append_right _ hr⟩
      covered := covered_append h.covered hw }

/-- Where the transport accepts the next piece. -/
theorem Wired.write (h : Wired accepted past office) {receipt : Receipt}
    {piece left : List UInt8} (hf : office.session.flight? = some ⟨receipt, piece ++ left⟩)
    (ht : next.session.transport.sent = piece :: office.session.transport.sent)
    (hb : next.session.transmit.bytes = office.session.transmit.bytes)
    (hl : next.session.flight? = some ⟨receipt, left⟩) :
    Wired accepted (past ++ [.wrote piece]) next := by
  have hbatch : batch (past ++ [.wrote piece]) = batch past ++ [.wrote piece] :=
    batch_append past (by simp)
  have hwritten : written (batch (past ++ [.wrote piece])) = written (batch past) ++ piece := by
    rw [hbatch, written_append]
    simp [written]
  have hrecords : records (batch (past ++ [.wrote piece])) = records (batch past) := by
    rw [hbatch, records_append]
    exact List.append_nil _
  have hwhole := h.flying receipt (piece ++ left) hf
  refine ⟨?_, ?_, ?_, by simp [hl], ?_, h.covered.append_cons ⟨?_, h.reserved⟩ (by simp)⟩
  · have haccepted := h.accepted
    rw [Transport.accepted] at haccepted
    rw [Transport.accepted, ht, List.reverse_cons, List.flatten_append, haccepted,
      written_append]
    simp [written]
  · rw [hb, hrecords]
    exact h.framed
  · intro receipt' left' hflight
    obtain ⟨-, rfl⟩ : receipt = receipt' ∧ left = left' := by simpa [hl] using hflight
    rw [hwritten, hrecords, ← hwhole, List.append_assoc]
  · rw [hbatch]
    intro message hm
    obtain ⟨r, hr⟩ := h.reserved message (by simpa using hm)
    exact ⟨r, List.mem_append_left _ hr⟩
  · exact ⟨left, by rw [← hwhole, List.append_assoc]⟩

theorem Wired.effect (h : Wired accepted past office) (he : Effect given office events next) :
    Wired accepted (past ++ events) next := by
  cases he with
  | arrange transport ht => exact h.still (by simp) (by simp) (by simp) ht rfl rfl
  | receive _ _ ht => exact h.still (by simp) (by simp) (by simp) ht rfl rfl
  | refuse _ _ hb => exact h.still (by simp) (by simp) (by simp) rfl hb.bytes rfl
  | frame hf =>
    exact h.frame hf (by simp) (by simp) (by simp [records]) (by simp) rfl rfl
      (by simp [hf])
  | reserve hf =>
    exact h.frame hf (by simp) (by simp) (by simp [records]) (by simp) rfl rfl
      (by rintro _ _ ⟨⟩; rfl)
  | ask _ _ _ hf =>
    exact h.frame hf (by simp) (by simp) (by simp [records]) (by simp) rfl rfl
      (by rintro _ _ ⟨⟩; rfl)
  | unreserve hf => exact h.clear [_] (by simp) (by simp) (by simp) rfl rfl hf
  | land | await | founder =>
    exact h.clear [] (by simp) (by simp) (by simp) rfl rfl rfl
  | @crash session held receipt =>
    obtain ⟨sequence, reservation?⟩ := receipt
    cases reservation? <;> exact h.clear [] (by simp) (by simp) (by simp) rfl rfl rfl
  | launch _ hf =>
    have hnone := h.grounded hf
    refine ⟨by simpa using h.accepted, by simpa using h.framed, ?_, by simp,
      by simpa using h.reserved, by simpa using h.covered⟩
    rintro _ _ ⟨⟩
    rw [List.append_nil, hnone]
    exact h.framed
  | write hf ht => exact h.write hf ht rfl rfl
  | close hc =>
    rw [close_of_open hc]
    exact h.still (by simp) (by simp) (by simp) rfl rfl rfl
  | _ => exact h.still (by simp) (by simp) (by simp) rfl rfl rfl

end Office
end RouteNetlink
