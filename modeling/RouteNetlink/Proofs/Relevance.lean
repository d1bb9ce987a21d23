import RouteNetlink.Proofs.Grammar

/-! Which bits of a record matter. A mask is drawn along the walk over the record, and records
that differ only where it is clear decode alike, to the same message or the same fault. -/
namespace RouteNetlink

/-- For each byte of a list, the bits of it that matter. -/
abbrev Mask := List UInt8

namespace Mask

def whole (n : Nat) : Mask := List.replicate n 0xff

def nothing (n : Nat) : Mask := List.replicate n 0

/-- So many bytes matter, or all where there are less; those behind them do not. -/
def front (n : Nat) (bs : List UInt8) : Mask :=
  whole (min n bs.length) ++ nothing (bs.length - n)

def terminated : List UInt8 → Mask
  | [] => []
  | b :: bs => 0xff :: if b = 0 then nothing bs.length else terminated bs

/-- What is left of a list where all that does not matter is cleared. -/
def apply (mask : Mask) (bs : List UInt8) : List UInt8 := List.zipWith (· &&& ·) mask bs

/-- Two lists of one length differ in nothing that matters. -/
structure Agree (mask : Mask) (as bs : List UInt8) : Prop where
  length : as.length = bs.length
  apply : mask.apply as = mask.apply bs

@[simp] theorem length_whole (n : Nat) : (whole n).length = n := List.length_replicate

@[simp] theorem length_nothing (n : Nat) : (nothing n).length = n := List.length_replicate

@[simp] theorem length_front (n : Nat) (bs : List UInt8) : (front n bs).length = bs.length := by
  simp only [front, List.length_append, length_whole, length_nothing]
  omega

@[simp] theorem length_terminated (bs : List UInt8) : (terminated bs).length = bs.length := by
  induction bs with
  | nil => rfl
  | cons b bs ih =>
    rw [terminated, List.length_cons, List.length_cons]
    split
    · rw [length_nothing]
    · rw [ih]

@[simp] theorem full_and (b : UInt8) : (0xff : UInt8) &&& b = b := UInt8.neg_one_and

theorem apply_whole (n : Nat) (bs : List UInt8) : (whole n).apply bs = bs.take n := by
  induction n generalizing bs with
  | zero => rfl
  | succ n ih =>
    cases bs with
    | nil => rfl
    | cons b bs =>
      have hrest : List.zipWith (· &&& ·) (whole n) bs = bs.take n := ih bs
      simp only [apply, whole, List.replicate_succ, List.zipWith_cons_cons, full_and,
        List.take_succ_cons]
      rw [← hrest]
      rfl

namespace Agree

variable {mask more : Mask} {as bs : List UInt8} {a b m : UInt8}

theorem cons_iff :
    Agree (m :: mask) (a :: as) (b :: bs) ↔ m &&& a = m &&& b ∧ Agree mask as bs := by
  constructor
  · rintro ⟨hl, ha⟩
    obtain ⟨hfirst, hrest⟩ := List.cons.inj ha
    exact ⟨hfirst, Nat.succ.inj hl, hrest⟩
  · rintro ⟨hfirst, hl, hrest⟩
    exact ⟨congrArg Nat.succ hl, congrArg₂ List.cons hfirst hrest⟩

theorem exists_cons {n : Nat} (h : Agree (m :: mask) as bs) (hl : as.length = n + 1) :
    ∃ a as' b bs', as = a :: as' ∧ bs = b :: bs' ∧ as'.length = n ∧ m &&& a = m &&& b ∧
      Agree mask as' bs' := by
  have hbs : bs.length = n + 1 := h.length ▸ hl
  obtain ⟨a, as', rfl⟩ := List.exists_cons_of_length_eq_add_one hl
  obtain ⟨b, bs', rfl⟩ := List.exists_cons_of_length_eq_add_one hbs
  exact ⟨a, as', b, bs', rfl, rfl, Nat.succ.inj hl, cons_iff.1 h⟩

theorem exists_cons_of_full {n : Nat} (h : Agree (0xff :: mask) as bs) (hl : as.length = n + 1) :
    ∃ a as' bs', as = a :: as' ∧ bs = a :: bs' ∧ as'.length = n ∧ Agree mask as' bs' := by
  obtain ⟨a, as', b, bs', rfl, rfl, hn, hab, hrest⟩ := h.exists_cons hl
  rw [full_and, full_and] at hab
  exact ⟨a, as', bs', rfl, hab ▸ rfl, hn, hrest⟩

/-- Agreement on a list is agreement on its parts. -/
theorem of_append (h : Agree (mask ++ more) as bs) :
    Agree mask (as.take mask.length) (bs.take mask.length) ∧
      Agree more (as.drop mask.length) (bs.drop mask.length) := by
  obtain ⟨hl, ha⟩ := h
  refine ⟨⟨by simp [hl], ?_⟩, ⟨by simp [hl], ?_⟩⟩
  · have htake := congrArg (List.take mask.length) ha
    simpa [Mask.apply, List.take_zipWith] using htake
  · have hdrop := congrArg (List.drop mask.length) ha
    simpa [Mask.apply, List.drop_zipWith] using hdrop

theorem take_eq {n : Nat} (h : Agree (whole n) as bs) : as.take n = bs.take n := by
  have ha := h.apply
  rwa [apply_whole, apply_whole] at ha

theorem eq {n : Nat} (h : Agree (whole n) as bs) (hn : as.length ≤ n) : as = bs := by
  have htake := h.take_eq
  rwa [List.take_of_length_le hn, List.take_of_length_le (h.length ▸ hn)] at htake

theorem take_eq_of_front {n : Nat} (h : Agree (front n as) as bs) : as.take n = bs.take n := by
  have hfront := h.of_append.1.take_eq
  rw [length_whole, List.take_take, List.take_take, Nat.min_self] at hfront
  rcases Nat.le_total n as.length with hn | hn
  · rwa [Nat.min_eq_left hn] at hfront
  · rw [Nat.min_eq_right hn, List.take_length, h.length, List.take_length] at hfront
    rw [hfront]

end Agree

end Mask

open Mask

namespace Form

/-- Of text what comes behind a terminator does not matter, and of counters what comes behind
the last one that is known. -/
def mask : Form → List UInt8 → Mask
  | text, bs => terminated bs
  | counters32, bs => front 92 bs
  | counters64, bs => front 184 bs
  | _, bs => whole bs.length

@[simp] theorem length_mask (form : Form) (bs : List UInt8) :
    (form.mask bs).length = bs.length := by
  cases form <;> simp [mask]

theorem takeWhile_of_agree {as bs : List UInt8} (h : Agree (terminated as) as bs) :
    as.takeWhile (· ≠ 0) = bs.takeWhile (· ≠ 0) := by
  induction as generalizing bs with
  | nil =>
    rw [List.eq_nil_of_length_eq_zero h.length.symm]
  | cons a as ih =>
    cases bs with
    | nil => cases h.length
    | cons b bs =>
      obtain ⟨hab, hrest⟩ := Agree.cons_iff.1 h
      obtain rfl : a = b := by simpa using hab
      by_cases ha : a = 0
      · simp [ha]
      · rw [if_neg ha] at hrest
        have hmore := ih hrest
        simp only [List.takeWhile_cons, hmore]

theorem decode_of_agree (form : Form) {as bs : List UInt8} (h : Agree (form.mask as) as bs) :
    form.decode as = form.decode bs := by
  cases form with
  | text => rw [decode, decode, Utf8.decodeTerminated, takeWhile_of_agree h]; rfl
  | counters32 =>
    rw [decode, decode, Layout.leading_congr _ h.length h.take_eq_of_front]
  | counters64 =>
    rw [decode, decode, Layout.leading_congr _ h.length h.take_eq_of_front]
  | _ => rw [h.eq (Nat.le_refl _)]

end Form

namespace RunItem

def headerMask : Mask := [0xff, 0xff, 0xff, 0x3f]

/-- Of a payload matters what its format says, and all where there is no such kind. -/
def payloadMask (masks : List (List UInt8 → Mask)) (kind : Nat) (payload : List UInt8) : Mask :=
  masks[kind]?.elim (whole payload.length) (· payload)

/-- What matters of a run: headers but for their flags, and of the payloads what their formats
say. Padding does not matter, nor do the last few bytes. Where the walk ends in a fault, all
matters that is left. -/
def mask (masks : List (List UInt8 → Mask)) (bs : List UInt8) : Mask :=
  if reaches headerSize bs then
    match h : split? bs with
    | some (raw, rest) =>
      have := length_of_split? h
      headerMask ++ (payloadMask masks (raw.1 &&& kindMask).toNat raw.2 ++
        (nothing (bs.length - headerSize - raw.2.length - rest.length) ++ mask masks rest))
    | none => headerMask ++ whole (bs.length - headerSize)
  else nothing bs.length
termination_by bs.length

variable {masks : List (List UInt8 → Mask)} {bs rest payload : List UInt8} {code : UInt16}

theorem mask_of_short (h : bs.length < headerSize) : mask masks bs = nothing bs.length := by
  have hr : ¬reaches headerSize bs = true := by
    rw [reaches_iff]
    omega
  rw [mask, if_neg hr]

theorem mask_of_none (h : split? bs = none) (hl : headerSize ≤ bs.length) :
    mask masks bs = headerMask ++ whole (bs.length - headerSize) := by
  rw [mask, if_pos ((reaches_iff _ _).2 hl)]
  split
  · simp_all
  · rfl

theorem mask_of_split? (h : split? bs = some ((code, payload), rest)) :
    mask masks bs = headerMask ++ (payloadMask masks (code &&& kindMask).toNat payload ++
      (nothing (bs.length - headerSize - payload.length - rest.length) ++ mask masks rest)) := by
  have hl := length_le_of_split? h
  rw [mask, if_pos ((reaches_iff _ _).2 (by omega))]
  split
  · rename_i hs
    obtain ⟨rfl, rfl⟩ := Prod.mk.inj (Option.some.inj (hs.symm.trans h))
    rfl
  · simp_all

theorem length_payloadMask (hm : ∀ mask ∈ masks, ∀ bs, (mask bs).length = bs.length) (kind : Nat)
    (payload : List UInt8) : (payloadMask masks kind payload).length = payload.length := by
  unfold payloadMask
  cases h : masks[kind]? with
  | none => exact length_whole _
  | some mask => exact hm mask (List.mem_of_getElem? h) payload

theorem length_mask (hm : ∀ mask ∈ masks, ∀ bs, (mask bs).length = bs.length)
    (bs : List UInt8) : (mask masks bs).length = bs.length := by
  induction hn : bs.length using Nat.strongRecOn generalizing bs with
  | ind n ih =>
    have hs : headerSize = 4 := rfl
    have hheader : headerMask.length = 4 := rfl
    by_cases hl : bs.length < headerSize
    · rw [mask_of_short hl, length_nothing, hn]
    · cases h : split? bs with
      | none =>
        rw [mask_of_none h (Nat.not_lt.1 hl), List.length_append, length_whole]
        omega
      | some split =>
        obtain ⟨⟨code, payload⟩, rest⟩ := split
        have hle := length_le_of_split? h
        have hrest := ih rest.length (by omega) rest rfl
        rw [mask_of_split? h]
        simp only [List.length_append, length_payloadMask hm, length_nothing, hrest]
        dsimp only at hle
        omega

/-- How the front of a run is split, byte by byte. -/
theorem split?_cons (a b c d : UInt8) (tail : List UInt8) :
    split? (a :: b :: c :: d :: tail) =
      if headerSize ≤ (Layout.u16.decode [a, b]).toNat ∧
          reaches ((Layout.u16.decode [a, b]).toNat - headerSize) tail then
        some ((Layout.u16.decode [c, d], tail.take ((Layout.u16.decode [a, b]).toNat - headerSize)),
          tail.drop (align4 ((Layout.u16.decode [a, b]).toNat - headerSize)))
      else none := rfl

/-- The flags are in the bits of the last byte that do not matter. -/
theorem kind_of_and_eq {d e : UInt8} (h : 0x3f &&& d = 0x3f &&& e) (c : UInt8) :
    (Layout.u16.decode [c, d] &&& kindMask).toNat =
      (Layout.u16.decode [c, e] &&& kindMask).toNat := by
  have hmod (b : UInt8) : ((0x3f : UInt8) &&& b).toNat = b.toNat % 2 ^ 6 := by
    have hm : (0x3f : UInt8).toNat = 2 ^ 6 - 1 := rfl
    rw [UInt8.toNat_and, hm, Nat.and_comm, Nat.and_two_pow_sub_one_eq_mod]
  have hlow : d.toNat % 2 ^ 6 = e.toNat % 2 ^ 6 := by rw [← hmod, ← hmod, h]
  have hword (b : UInt8) : (Layout.u16.decode [c, b]).toNat =
      (c.toNat + 256 * (b.toNat + 256 * 0)) % 2 ^ 16 := UInt16.toNat_ofNat'
  rw [mask_eq_mod, mask_eq_mod, hword, hword]
  omega

theorem cons_of_agree {m : Mask} {as bs : List UInt8} (h : Agree (headerMask ++ m) as bs)
    (hl : headerSize ≤ as.length) :
    ∃ a b c d e as' bs', as = a :: b :: c :: d :: as' ∧ bs = a :: b :: c :: e :: bs' ∧
      0x3f &&& d = 0x3f &&& e ∧ Agree m as' bs' := by
  obtain ⟨n, hn⟩ := Nat.exists_eq_add_of_le' hl
  obtain ⟨a, _, _, rfl, rfl, hn, h⟩ := h.exists_cons_of_full hn
  obtain ⟨b, _, _, rfl, rfl, hn, h⟩ := h.exists_cons_of_full hn
  obtain ⟨c, _, _, rfl, rfl, hn, h⟩ := h.exists_cons_of_full hn
  obtain ⟨d, as', e, bs', rfl, rfl, -, hflags, hrest⟩ := h.exists_cons hn
  exact ⟨a, b, c, d, e, as', bs', rfl, rfl, hflags, hrest⟩

/-- What is left of a payload and of its padding is left behind both. -/
theorem drop_gap {bs : List UInt8} {n k : Nat} (hk : n ≤ k) (hn : n ≤ bs.length) :
    (bs.drop n).drop (bs.length - n - (bs.drop k).length) = bs.drop k := by
  rw [List.drop_drop, List.length_drop]
  rcases Nat.le_total k bs.length with hl | hl
  · congr 1
    omega
  · rw [List.drop_eq_nil_of_le hl, List.drop_eq_nil_of_le (by omega)]

/-- Two runs that differ in nothing that matters have their attributes in the same places. -/
theorem split?_of_agree (hm : ∀ mask ∈ masks, ∀ bs, (mask bs).length = bs.length)
    {as : List UInt8} (h : Agree (mask masks as) as bs) (hl : headerSize ≤ as.length) :
    split? as = none ∧ split? bs = none ∧ declared as = declared bs ∨
      ∃ code other payload payload' rest rest',
        split? as = some ((code, payload), rest) ∧ split? bs = some ((other, payload'), rest') ∧
        (code &&& kindMask).toNat = (other &&& kindMask).toNat ∧
        Agree (payloadMask masks (code &&& kindMask).toNat payload) payload payload' ∧
        Agree (mask masks rest) rest rest' := by
  cases hs : split? as with
  | none =>
    rw [mask_of_none hs hl] at h
    obtain ⟨a, b, c, d, e, as', bs', rfl, rfl, -, hrest⟩ := cons_of_agree h hl
    refine .inl ⟨rfl, ?_, rfl⟩
    rw [split?_cons, reaches_congr hrest.length] at hs
    rw [split?_cons]
    split at hs
    · cases hs
    · rename_i hno
      rw [if_neg hno]
  | some split =>
    obtain ⟨⟨code, payload⟩, rest⟩ := split
    rw [mask_of_split? hs] at h
    obtain ⟨a, b, c, d, e, as', bs', rfl, rfl, hflags, htail⟩ := cons_of_agree h hl
    right
    rw [split?_cons] at hs
    split at hs
    · rename_i hfits
      cases hs
      have hn := (reaches_iff _ _).1 hfits.2
      have hle := le_align4 ((Layout.u16.decode [a, b]).toNat - headerSize)
      have hlength := htail.length
      obtain ⟨hpayload, hbehind⟩ := htail.of_append
      rw [length_payloadMask hm, List.length_take_of_le hn] at hpayload hbehind
      have hrest := hbehind.of_append.2
      have hgap : (a :: b :: c :: d :: as').length - headerSize = as'.length := rfl
      have hdrop (k : Nat) : (as'.drop k).length = (bs'.drop k).length := by
        rw [List.length_drop, List.length_drop, hlength]
      rw [length_nothing, hgap, drop_gap hle hn, hdrop, hlength,
        drop_gap hle (hlength ▸ hn)] at hrest
      rw [reaches_congr hlength] at hfits
      exact ⟨_, _, _, _, _, _, rfl, (split?_cons ..).trans (if_pos hfits),
        kind_of_and_eq hflags c, hpayload, hrest⟩
    · cases hs

end RunItem

namespace Format

mutual

def mask : Format → List UInt8 → Mask
  | plain form => form.mask
  | nested _ _ rows => RunItem.mask (masks rows)

def masks : List (String × Format) → List (List UInt8 → Mask)
  | [] => []
  | (_, format) :: rows => mask format :: masks rows

end

theorem masks_eq_map (rows : List (String × Format)) :
    masks rows = rows.map fun row => mask row.2 := by
  induction rows with
  | nil => simp [masks]
  | cons row rows ih => simp [masks, ih]

/-- All bits that a format reads are among those that matter. -/
structure Heeds (format : Format) : Prop where
  length : ∀ bs, (format.mask bs).length = bs.length
  decode : ∀ as bs, Agree (format.mask as) as bs → format.decode as = format.decode bs

variable (label : String) {rows : List (String × Format)}

theorem length_masks (h : ∀ row ∈ rows, row.2.Heeds) :
    ∀ mask ∈ masks rows, ∀ bs, (mask bs).length = bs.length := by
  intro mask hm
  rw [masks_eq_map] at hm
  obtain ⟨row, hr, rfl⟩ := List.mem_map.1 hm
  exact (h row hr).length

theorem decodeItem_of_agree (h : ∀ row ∈ rows, row.2.Heeds) (kind : Nat) {as bs : List UInt8}
    (ha : Agree (RunItem.payloadMask (masks rows) kind as) as bs) :
    Table.decodeItem label (decoders rows) ⟨kind, as⟩ =
      Table.decodeItem label (decoders rows) ⟨kind, bs⟩ := by
  unfold RunItem.payloadMask at ha
  unfold Table.decodeItem
  rw [masks_eq_map, List.getElem?_map] at ha
  rw [decoders_eq_map, List.getElem?_map]
  cases hrow : rows[kind]? with
  | none => rfl
  | some row =>
    rw [hrow] at ha
    exact (h row (List.mem_of_getElem? hrow)).decode as bs ha

theorem foldlM_of_agree (h : ∀ row ∈ rows, row.2.Heeds) (table : Table) {as bs : List UInt8}
    (ha : Agree (RunItem.mask (masks rows) as) as bs) :
    (RunItem.all as).foldlM (Table.decodeInto label (decoders rows)) table =
      (RunItem.all bs).foldlM (Table.decodeInto label (decoders rows)) table := by
  induction hn : as.length using Nat.strongRecOn generalizing as bs table with
  | ind n ih =>
    have hs : RunItem.headerSize = 4 := rfl
    by_cases hl : as.length < RunItem.headerSize
    · rw [RunItem.all_of_short hl, RunItem.all_of_short (ha.length ▸ hl)]
    · have hl := Nat.not_lt.1 hl
      rcases RunItem.split?_of_agree (length_masks h) ha hl with
        ⟨has, hbs, hd⟩ | ⟨code, other, payload, payload', rest, rest', has, hbs, hk, hp, hr⟩
      · rw [RunItem.all_of_split?_eq_none has hl,
          RunItem.all_of_split?_eq_none hbs (ha.length ▸ hl), hd, ha.length]
      · have hle := RunItem.length_le_of_split? has
        have hitem := decodeItem_of_agree label h _ hp
        rw [RunItem.all_of_split? has, RunItem.all_of_split? hbs, List.foldlM_cons,
          List.foldlM_cons]
        simp only [Table.decodeInto, Outcome.ok_bind, ← hk, hitem]
        congr 1
        funext next
        exact ih rest.length (by omega) next hr rfl

theorem heeds (format : Format) : format.Heeds := by
  induction format with
  | plain form =>
    constructor
    · intro bs
      rw [mask, form.length_mask]
    · intro as bs h
      rw [mask] at h
      simp only [decode, form.decode_of_agree h]
  | nested nest label rows ih =>
    constructor
    · intro bs
      rw [mask]
      exact RunItem.length_mask (length_masks ih) bs
    · intro as bs h
      rw [mask] at h
      have hrun := foldlM_of_agree label ih (Table.empty (decoders rows).length) h
      simp only [decode, Table.decodeRun, hrun]

end Format

namespace Schema

def mask (schema : Schema) : List UInt8 → Mask := RunItem.mask (Format.masks schema.rows)

@[simp] theorem length_mask (schema : Schema) (bs : List UInt8) :
    (schema.mask bs).length = bs.length :=
  RunItem.length_mask (Format.length_masks fun row _ => row.2.heeds) bs

theorem decode_of_agree (schema : Schema) {as bs : List UInt8} (h : Agree (schema.mask as) as bs) :
    schema.decode as = schema.decode bs :=
  Format.foldlM_of_agree schema.label (fun row _ => row.2.heeds) _ h

end Schema

namespace Subject

def fixedMask : Subject → Mask
  | link => 0xff :: 0 :: whole 14
  | address => whole 8
  | route => whole 12
  | neighbor => 0xff :: 0 :: 0 :: 0 :: whole 8
  | networkNamespace => [0xff, 0, 0, 0]

/-- The bits of a body that matter. The first byte says which attributes there can be. -/
def mask (subject : Subject) : List UInt8 → Mask
  | [] => []
  | family :: rest =>
    subject.fixedMask.take (family :: rest).length ++
      (subject.schema ⟨family⟩).mask ((family :: rest).drop subject.fixedSize)

theorem length_fixedMask (subject : Subject) : subject.fixedMask.length = subject.fixedSize := by
  cases subject <;> rfl

@[simp] theorem length_mask (subject : Subject) (body : List UInt8) :
    (subject.mask body).length = body.length := by
  cases body with
  | nil => rfl
  | cons family rest =>
    rw [mask, List.length_append, List.length_take, length_fixedMask, Schema.length_mask,
      List.length_drop]
    omega

theorem entity_of_agree (subject : Subject) {as bs : List UInt8}
    (hl : as.length = subject.fixedSize) (h : Agree subject.fixedMask as bs) :
    subject.entity as = subject.entity bs := by
  cases subject with
  | link =>
    obtain ⟨family, _, _, rfl, rfl, hl, h⟩ := h.exists_cons_of_full hl
    obtain ⟨_, rest, _, _, rfl, rfl, hl, -, h⟩ := h.exists_cons hl
    rw [h.eq hl.le]
    rfl
  | neighbor =>
    obtain ⟨family, _, _, rfl, rfl, hl, h⟩ := h.exists_cons_of_full hl
    obtain ⟨_, _, _, _, rfl, rfl, hl, -, h⟩ := h.exists_cons hl
    obtain ⟨_, _, _, _, rfl, rfl, hl, -, h⟩ := h.exists_cons hl
    obtain ⟨_, rest, _, _, rfl, rfl, hl, -, h⟩ := h.exists_cons hl
    rw [h.eq hl.le]
    rfl
  | networkNamespace =>
    obtain ⟨family, _, _, rfl, rfl, -, -⟩ := h.exists_cons_of_full hl
    rfl
  | address => rw [Agree.eq h hl.le]
  | route => rw [Agree.eq h hl.le]

/-- Fixed parts that differ in nothing that matters describe one entity, and leave runs that
differ in nothing that matters to it. -/
theorem split_of_agree (subject : Subject) {as bs : List UInt8}
    (h : Agree (subject.mask as) as bs) :
    (∃ fault, subject.split as = .error fault ∧ subject.split bs = .error fault) ∨
      ∃ e run run', subject.split as = .ok (e, run) ∧ subject.split bs = .ok (e, run') ∧
        Agree (e.schema.mask run) run run' := by
  have hl := h.length
  cases as with
  | nil =>
    obtain rfl := List.eq_nil_of_length_eq_zero hl.symm
    left
    cases subject <;> exact ⟨_, rfl, rfl⟩
  | cons family rest =>
    rw [mask] at h
    obtain ⟨hfixed, hrun⟩ := h.of_append
    rw [List.length_take, length_fixedMask] at hfixed hrun
    by_cases hle : subject.fixedSize ≤ (family :: rest).length
    · right
      have hmask := subject.length_fixedMask.trans_le hle
      rw [Nat.min_eq_right hle, List.take_of_length_le hmask] at hfixed
      rw [Nat.min_eq_right hle] at hrun
      have hlength := List.length_take_of_le hle
      have hentity := subject.entity_of_agree hlength hfixed
      refine ⟨_, _, bs.drop subject.fixedSize, subject.split_of_whole hle, ?_, ?_⟩
      · rw [hentity, subject.split_of_whole (hl ▸ hle)]
      · have hpos : 0 < subject.fixedSize := by cases subject <;> decide
        rw [List.take_cons hpos] at hlength ⊢
        rwa [subject.schema_entity hlength]
    · have hcut := Nat.not_le.1 hle
      by_cases hsubject : subject = networkNamespace
      · subst hsubject
        obtain ⟨_, _, more, hcons, rfl, -, -⟩ := h.exists_cons_of_full rfl
        obtain ⟨rfl, rfl⟩ := List.cons.inj hcons
        right
        exact ⟨_, _, _, split_networkNamespace_of_cut hcut,
          split_networkNamespace_of_cut (hl ▸ hcut), rfl, rfl⟩
      · left
        refine ⟨_, split_of_cut hcut hsubject, ?_⟩
        rw [hl, split_of_cut (hl ▸ hcut) hsubject]

end Subject

/-- The bits of a body that matter to a record of a kind. Of a query that has less than a fixed
part only the family does, of an answer only its own body, and nothing of what is about
nothing. -/
def RecordKind.mask (kind : RecordKind) (body : List UInt8) : Mask :=
  match kind.subject? with
  | some subject =>
    if kind.isQuery ∧ body.length < subject.fixedSize then front 1 body else subject.mask body
  | none => if kind = .error then front Opened.replyWidth body else nothing body.length

@[simp] theorem RecordKind.length_mask (kind : RecordKind) (body : List UInt8) :
    (kind.mask body).length = body.length := by
  unfold mask
  split
  · split <;> simp
  · split <;> simp

namespace Opened

def resolve : Opened → Except Fault Message
  | complete message => .ok message
  | attributed header e run =>
    (e.schema.decode run).map fun table => ⟨header, .entity e table⟩

theorem query_of_agree (header : Header) {as bs : List UInt8} (h : Agree (front 1 as) as bs) :
    query header as = query header bs := by
  cases as with
  | nil => rw [List.eq_nil_of_length_eq_zero h.length.symm]
  | cons family rest =>
    obtain ⟨_, _, more, hcons, rfl, -, -⟩ := h.exists_cons_of_full rfl
    obtain ⟨rfl, rfl⟩ := List.cons.inj hcons
    rw [query, query, Cursor.read_u8, Cursor.read_u8]
    rfl

theorem reply_of_agree (header : Header) {as bs : List UInt8}
    (h : Agree (front replyWidth as) as bs) : reply header as = reply header bs := by
  by_cases hl : replyWidth ≤ as.length
  · rw [reply_of_whole header hl, reply_of_whole header (h.length ▸ hl), h.take_eq_of_front]
  · have hcut := Nat.not_le.1 hl
    rw [reply_of_cut header hcut, reply_of_cut header (h.length ▸ hcut), h.length]

theorem resolve_of_agree (header : Header) {as bs : List UInt8}
    (h : Agree (header.kind.mask as) as bs) :
    (ofBody header as >>= resolve) = (ofBody header bs >>= resolve) := by
  unfold RecordKind.mask at h
  unfold ofBody
  cases hs : header.kind.subject? with
  | none =>
    rw [hs] at h
    dsimp only at h ⊢
    by_cases hk : header.kind = .error
    · rw [if_pos hk] at h
      rw [reply_of_agree header h]
    · rw [if_neg hk, if_neg hk]
  | some subject =>
    rw [hs] at h
    dsimp only at h ⊢
    rw [← h.length]
    split
    · rename_i hq
      rw [if_pos hq] at h
      rw [query_of_agree header h]
    · rename_i hq
      rw [if_neg hq] at h
      rcases subject.split_of_agree h with ⟨fault, has, hbs⟩ | ⟨e, run, run', has, hbs, hrun⟩
      · rw [has, hbs]
      · rw [has, hbs]
        simp only [Outcome.ok_map, Outcome.ok_bind, resolve, e.schema.decode_of_agree hrun]

end Opened

namespace Message

/-- The bits of a record that matter. All of the header does, and nothing behind the declared
length. Where that is too short or too long, it alone matters. -/
def mask (record : List UInt8) : Mask :=
  if 16 ≤ declaredLength record ∧ declaredLength record ≤ record.length then
    whole 16 ++ ((declaredKind record).mask ((record.take (declaredLength record)).drop 16) ++
      nothing (record.length - declaredLength record))
  else front 4 record

theorem decode_eq_resolve (record : List UInt8) :
    decode record = Opened.ofRecord record >>= Opened.resolve := by
  unfold decode
  congr 1

/-- Records that differ in nothing that matters decode to the same message, or to the same
fault. -/
theorem decode_eq_of_agree {record other : List UInt8} (h : Agree (mask record) record other) :
    decode record = decode other := by
  have hl := h.length
  rw [decode_eq_resolve, decode_eq_resolve]
  unfold mask at h
  split at h
  · rename_i hin
    obtain ⟨hcovered, hwhole⟩ := hin
    obtain ⟨hheader, hbehind⟩ := h.of_append
    rw [length_whole] at hheader hbehind
    have hfront : record.take 16 = other.take 16 := hheader.eq (List.length_take_le ..)
    have hlength : declaredLength record = declaredLength other := by
      have hword := congrArg (List.take 4) hfront
      rw [List.take_take, List.take_take] at hword
      exact congrArg LittleEndian.value hword
    obtain ⟨header, hh⟩ := Header.exists_decode (hcovered.trans hwhole)
    have hother : Header.decode other = .ok header := by
      rw [← hh, Header.decode, Header.decode, Layout.leading_congr _ hl hfront]
    have hbody := hbehind.of_append.1
    rw [RecordKind.length_mask, List.length_drop, List.length_take_of_le hwhole,
      ← List.drop_take, ← List.drop_take, ← kind_of_decode_header hh] at hbody
    rw [ofRecord_of_covered hh hcovered hwhole,
      ofRecord_of_covered hother (hlength ▸ hcovered) (hlength ▸ hl ▸ hwhole), ← hlength]
    exact Opened.resolve_of_agree header hbody
  · rename_i hno
    have hfront := h.take_eq_of_front
    have hlength : declaredLength record = declaredLength other :=
      congrArg LittleEndian.value hfront
    rw [ofRecord_of_uncovered hno, ofRecord_of_uncovered (hlength ▸ hl ▸ hno), hlength, hl]

/-- A link with a name, a nested setting and a nested kind. No padding matters, no flag on a
kind, nothing behind the terminator of the name and nothing behind the run. -/
theorem decode_eq_of_agree_noisyLink :
    let record (pad flags : UInt8) : List UInt8 :=
      [74, 0, 0, 0, 16, 0, 0, 0, 0, 0, 0, 0, 0, 0, 0, 0] ++
        [0, pad, 1, 0, 2, 0, 0, 0, 3, 0, 0, 0, 0, 0, 0, 0] ++
        [10, 0, 3, flags, 108, 111, 0, pad, pad, pad, pad, pad] ++
        [16, 0, 26, flags, 12, 0, 10, flags, 5, 0, 8, flags, 1, pad, pad, pad] ++
        [12, 0, 18, flags, 7, 0, 1, flags, 116, 117, 110, pad] ++ [pad, pad, pad, pad]
    Agree (mask (record 0 0)) (record 0 0) (record 7 192) ∧
      decode (record 0 0) = decode (record 7 192) ∧ (decode (record 0 0)).toOption.isSome := by
  intro record
  have h : Agree (mask (record 0 0)) (record 0 0) (record 7 192) := by
    constructor
    · decide
    · decide +kernel
  exact ⟨h, decode_eq_of_agree h, by decide +kernel⟩

end Message
end RouteNetlink
