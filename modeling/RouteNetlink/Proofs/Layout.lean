import RouteNetlink.Bytes.Layout

/-! What the readers of a layout make of its own encodings, and which bytes they accept. -/
namespace RouteNetlink
namespace Layout

variable {α : Type} (layout : Layout α)

@[simp] theorem exactly_encode (a : α) : layout.exactly (layout.encode a) = .ok a := by
  simp [exactly]

theorem leading_encode_append (a : α) (rest : List UInt8) :
    layout.leading (layout.encode a ++ rest) = .ok a := by
  have h : reaches layout.width (layout.encode a ++ rest) = true := by
    rw [reaches_iff, List.length_append, layout.length_encode]
    exact Nat.le_add_right _ _
  rw [leading, if_pos h, List.take_left' (layout.length_encode a), decode_encode]

theorem leading_encode (a : α) : layout.leading (layout.encode a) = .ok a := by
  simpa using layout.leading_encode_append a []

theorem exactly_eq_ok_iff {bs : List UInt8} {a : α} :
    layout.exactly bs = .ok a ↔ bs = layout.encode a := by
  constructor
  · intro h
    unfold exactly at h
    split at h
    · rename_i hl
      cases h
      exact (layout.encode_decode bs hl).symm
    · cases h
  · rintro rfl
    exact layout.exactly_encode a

theorem width_le_of_leading {bs : List UInt8} {a : α} (h : layout.leading bs = .ok a) :
    layout.width ≤ bs.length := by
  unfold leading at h
  split at h
  · rename_i hr
    exact (reaches_iff _ _).1 hr
  · cases h

/-- What is behind the width of a layout is read for its length alone. -/
theorem leading_congr {as bs : List UInt8} (hl : as.length = bs.length)
    (h : as.take layout.width = bs.take layout.width) : layout.leading as = layout.leading bs := by
  rw [leading, leading, reaches_congr hl, h, hl]

/-- A value in front of anything is split off as it was. -/
@[simp] theorem split?_encode (a : α) (rest : List UInt8) :
    layout.split? (layout.encode a ++ rest) = some (a, rest) := by
  have hl : (layout.encode a).length = layout.width := layout.length_encode a
  have hr : reaches layout.width (layout.encode a ++ rest) = true := by
    rw [reaches_iff, List.length_append, hl]
    exact Nat.le_add_right _ _
  rw [split?, if_pos hr, List.take_left' hl, List.drop_left' hl, decode_encode]

theorem split?_eq_some_iff {bs rest : List UInt8} {a : α} :
    layout.split? bs = some (a, rest) ↔ bs = layout.encode a ++ rest := by
  constructor
  · intro h
    unfold split? at h
    split at h
    · rename_i hr
      rw [reaches_iff] at hr
      obtain ⟨rfl, rfl⟩ := Prod.mk.inj (Option.some.inj h)
      rw [layout.encode_decode _ (List.length_take_of_le hr), List.take_append_drop]
    · cases h
  · rintro rfl
    exact layout.split?_encode a rest

end Layout

end RouteNetlink
