import Mathlib.Data.List.Induction
import RouteNetlink.Proofs.Grammar

/-! Runs of attributes as tables of last occurrences. What stands in a run is told by its bytes
alone: the table has of each kind the attribute that came last, and a run with faults fails with
the first of them. -/
namespace RouteNetlink

namespace RunItem

/-- The length at the front of a run, which counts the header. -/
def frontLength (bs : List UInt8) : Nat := LittleEndian.value (bs.take 2)

/-- The kind behind the length, without its two flag bits. -/
def frontKind (bs : List UInt8) : Nat := LittleEndian.value ((bs.drop 2).take 2) % 2 ^ 14

/-- The attributes of a run in wire order, and the fault with which it breaks off where a length
ends inside its header or past the run. Fewer than four bytes are padding. -/
inductive Listed : (bs : List UInt8) → (items : List RunItem) → (broken? : Option Fault) → Prop where
  | stray {bs : List UInt8} (h : bs.length < 4) : Listed bs [] none
  | broken {bs : List UInt8} (hl : 4 ≤ bs.length)
      (h : frontLength bs < 4 ∨ bs.length < frontLength bs) :
      Listed bs [] (some (.truncated (max (frontLength bs) 4) bs.length))
  | item {bs : List UInt8} {items : List RunItem} {broken? : Option Fault}
      (hl : 4 ≤ frontLength bs) (hw : frontLength bs ≤ bs.length)
      (h : Listed (bs.drop (align4 (frontLength bs))) items broken?) :
      Listed bs (⟨frontKind bs, (bs.take (frontLength bs)).drop 4⟩ :: items) broken?

/-- What a walk along a run meets. -/
def met (items : List RunItem) (broken? : Option Fault) : List (Except Fault RunItem) :=
  items.map .ok ++ (broken?.map .error).toList

variable {bs : List UInt8} {items : List RunItem} {broken? : Option Fault}

theorem header_decode (bs : List UInt8) :
    header.decode bs =
      (UInt16.ofNat (LittleEndian.value (bs.take 2)),
        UInt16.ofNat (LittleEndian.value (bs.drop 2))) := rfl

theorem toNat_frontLength (hl : 4 ≤ bs.length) :
    (header.decode (bs.take headerSize)).1.toNat = frontLength bs := by
  have hlt := LittleEndian.value_lt (bs.take 2)
  rw [List.length_take_of_le (by omega)] at hlt
  rw [header_decode, List.take_take]
  exact Nat.mod_eq_of_lt hlt

theorem mask_frontKind (hl : 4 ≤ bs.length) :
    ((header.decode (bs.take headerSize)).2 &&& kindMask).toNat = frontKind bs := by
  have hlt := LittleEndian.value_lt ((bs.drop 2).take 2)
  rw [List.length_take_of_le (by rw [List.length_drop]; omega)] at hlt
  rw [mask_eq_mod, header_decode, List.drop_take]
  exact congrArg (· % 2 ^ 14) (Nat.mod_eq_of_lt hlt)

theorem split?_header_of_le (hl : 4 ≤ bs.length) :
    header.split? bs = some (header.decode (bs.take headerSize), bs.drop headerSize) :=
  if_pos ((reaches_iff _ _).2 hl)

/-- An attribute is split off just where its length takes in its header and stays within the
run. -/
theorem split?_of_front (hl : 4 ≤ frontLength bs) (hw : frontLength bs ≤ bs.length) :
    split? bs = some (((header.decode (bs.take headerSize)).2, (bs.take (frontLength bs)).drop 4),
      bs.drop (align4 (frontLength bs))) := by
  have hs : headerSize = 4 := rfl
  have hheader := split?_header_of_le (hl.trans hw)
  have hlength := toNat_frontLength (hl.trans hw)
  have hreach : headerSize ≤ frontLength bs ∧
      reaches (frontLength bs - headerSize) (bs.drop headerSize) = true := by
    rw [reaches_iff, List.length_drop]
    omega
  have halign : headerSize + align4 (frontLength bs - headerSize) = align4 (frontLength bs) := by
    unfold align4
    omega
  simp only [split?, hheader, hlength, if_pos hreach, List.drop_drop, halign, List.drop_take]
  rfl

theorem split?_of_broken (hl : 4 ≤ bs.length)
    (h : frontLength bs < 4 ∨ bs.length < frontLength bs) : split? bs = none := by
  have hs : headerSize = 4 := rfl
  have hheader := split?_header_of_le hl
  have hlength := toNat_frontLength hl
  have hreach : ¬(headerSize ≤ frontLength bs ∧
      reaches (frontLength bs - headerSize) (bs.drop headerSize) = true) := by
    rw [reaches_iff, List.length_drop]
    omega
  simp only [split?, hheader, hlength, if_neg hreach]

/-- A walk from the front meets what is listed. -/
theorem Listed.all (h : Listed bs items broken?) : all bs = met items broken? := by
  induction h with
  | stray h => exact all_of_short h
  | @broken bs hl h =>
    rw [all_of_split?_eq_none (split?_of_broken hl h) hl, declared, toNat_frontLength hl]
    rfl
  | @item bs items broken? hl hw _ ih =>
    rw [all_of_split? (split?_of_front hl hw), ih, mask_frontKind (hl.trans hw)]
    rfl

theorem exists_listed (bs : List UInt8) : ∃ items broken?, Listed bs items broken? := by
  induction hn : bs.length using Nat.strongRecOn generalizing bs with
  | ind n ih =>
    by_cases hl : bs.length < 4
    · exact ⟨[], none, .stray hl⟩
    · by_cases hf : frontLength bs < 4 ∨ bs.length < frontLength bs
      · exact ⟨[], _, .broken (Nat.not_lt.1 hl) hf⟩
      · rw [not_or, Nat.not_lt, Nat.not_lt] at hf
        have hle := le_align4 (frontLength bs)
        have hshorter : (bs.drop (align4 (frontLength bs))).length < n := by
          rw [List.length_drop]
          omega
        obtain ⟨items, broken?, h⟩ := ih _ hshorter _ rfl
        exact ⟨_, broken?, .item hf.1 hf.2 h⟩

/-- There is one way to list a run. -/
theorem Listed.unique (h : Listed bs items broken?) {items' : List RunItem}
    {broken?' : Option Fault} (h' : Listed bs items' broken?') :
    items' = items ∧ broken?' = broken? := by
  induction h generalizing items' broken?' with
  | stray h =>
    cases h' with
    | stray => exact ⟨rfl, rfl⟩
    | broken => omega
    | item => omega
  | broken hl h =>
    cases h' with
    | stray => omega
    | broken => exact ⟨rfl, rfl⟩
    | item => omega
  | item hl hw _ ih =>
    cases h' with
    | stray => omega
    | broken => omega
    | item _ _ h' =>
      obtain ⟨rfl, rfl⟩ := ih h'
      exact ⟨rfl, rfl⟩

end RunItem

namespace Table

variable {label : String} {decoders : Decoders} {items : List RunItem} {broken? : Option Fault}
  {fault : Fault} {table result : Table}

/-- What an attribute of a run says, by the decoder of its kind. -/
def Decodes (decoders : Decoders) (item : RunItem) (a : Attribute) : Prop :=
  ∃ decoder, decoders[item.kind]? = some decoder ∧ decoder item.payload = .ok a

/-- What is wrong with an attribute of a run: the table has no place for its kind, or the payload
is not what its kind asks for. -/
inductive Flawed (label : String) (decoders : Decoders) (item : RunItem) : Fault → Prop where
  | kind (h : decoders.length ≤ item.kind) :
      Flawed label decoders item (.unknownAttribute label item.kind decoders.length)
  | payload {decoder : List UInt8 → Except Fault Attribute} {fault : Fault}
      (hd : decoders[item.kind]? = some decoder) (h : decoder item.payload = .error fault) :
      Flawed label decoders item fault

/-- The leftmost thing that is wrong in a run. In front of it, all can be decoded. -/
def FirstFault (label : String) (decoders : Decoders) (items : List RunItem)
    (broken? : Option Fault) (fault : Fault) : Prop :=
  ∃ sound, (∀ item ∈ sound, ∃ a, Decodes decoders item a) ∧
    ((∃ item later, items = sound ++ item :: later ∧ Flawed label decoders item fault) ∨
      items = sound ∧ broken? = some fault)

/-- A table with one slot for each kind, which has of a kind what came last, if any came. -/
structure KeepsLast (decoders : Decoders) (items : List RunItem) (table : Table) : Prop where
  length : table.length = decoders.length
  at?_eq_some_iff : ∀ kind a, table.at? kind = some a ↔
    ∃ item, (items.filter (·.kind = kind)).getLast? = some item ∧ Decodes decoders item a

theorem decodeItem_eq_error_iff {item : RunItem} :
    decodeItem label decoders item = .error fault ↔ Flawed label decoders item fault := by
  unfold decodeItem
  cases hd : decoders[item.kind]? with
  | none =>
    have hl := List.getElem?_eq_none_iff.1 hd
    constructor
    · rintro ⟨⟩
      exact .kind hl
    · intro h
      cases h with
      | kind => rfl
      | payload hd' =>
        rw [hd] at hd'
        cases hd'
  | some decoder =>
    have hl := (List.getElem?_eq_some_iff.1 hd).1
    constructor
    · exact .payload hd
    · intro h
      cases h with
      | kind hk => omega
      | payload hd' h =>
        rw [hd] at hd'
        cases hd'
        exact h

theorem firstFault_nil : FirstFault label decoders [] broken? fault ↔ broken? = some fault := by
  constructor
  · rintro ⟨sound, -, ⟨item, later, hitems, -⟩ | ⟨-, hbroken⟩⟩
    · simp at hitems
    · exact hbroken
  · intro h
    exact ⟨[], by simp, .inr ⟨rfl, h⟩⟩

/-- In front of the first attribute nothing is sound. -/
theorem firstFault_cons_of_flawed {item : RunItem} {other : Fault}
    (h : decodeItem label decoders item = .error other) :
    FirstFault label decoders (item :: items) broken? fault ↔ other = fault := by
  constructor
  · rintro ⟨sound, hsound, hrest⟩
    cases sound with
    | nil =>
      rcases hrest with ⟨_, _, hitems, hflawed⟩ | ⟨hitems, -⟩
      · obtain ⟨rfl, -⟩ := List.cons.inj hitems
        rw [decodeItem_eq_error_iff.2 hflawed] at h
        exact (Except.error.inj h).symm
      · cases hitems
    | cons first sound =>
      have hfirst : item = first := by
        rcases hrest with ⟨_, _, hitems, -⟩ | ⟨hitems, -⟩ <;> exact (List.cons.inj hitems).1
      obtain ⟨a, ha⟩ := hsound first List.mem_cons_self
      rw [hfirst, decodeItem_eq_ok_iff.2 ha] at h
      cases h
  · rintro rfl
    exact ⟨[], by simp, .inl ⟨item, items, rfl, decodeItem_eq_error_iff.1 h⟩⟩

/-- An attribute that can be decoded leaves the fault to those behind it. -/
theorem firstFault_cons_of_sound {item : RunItem} {a : Attribute}
    (h : decodeItem label decoders item = .ok a) :
    FirstFault label decoders (item :: items) broken? fault ↔
      FirstFault label decoders items broken? fault := by
  constructor
  · rintro ⟨sound, hsound, hrest⟩
    cases sound with
    | nil =>
      rcases hrest with ⟨_, _, hitems, hflawed⟩ | ⟨⟨⟩, -⟩
      obtain ⟨rfl, rfl⟩ := List.cons.inj hitems
      rw [decodeItem_eq_error_iff.2 hflawed] at h
      cases h
    | cons first sound =>
      refine ⟨sound, (List.forall_mem_cons.1 hsound).2, ?_⟩
      rcases hrest with ⟨other, later, hitems, hflawed⟩ | ⟨hitems, hbroken⟩
      · exact .inl ⟨other, later, (List.cons.inj hitems).2, hflawed⟩
      · exact .inr ⟨(List.cons.inj hitems).2, hbroken⟩
  · rintro ⟨sound, hsound, hrest⟩
    have hall := List.forall_mem_cons.2 ⟨⟨a, decodeItem_eq_ok_iff.1 h⟩, hsound⟩
    refine ⟨item :: sound, hall, ?_⟩
    rcases hrest with ⟨other, later, rfl, hflawed⟩ | ⟨rfl, hbroken⟩
    · exact .inl ⟨other, later, rfl, hflawed⟩
    · exact .inr ⟨rfl, hbroken⟩

/-- Storing attributes one after another fails with the first fault. -/
theorem foldlM_eq_error_iff (table : Table) :
    (RunItem.met items broken?).foldlM (decodeInto label decoders) table = .error fault ↔
      FirstFault label decoders items broken? fault := by
  induction items generalizing table with
  | nil =>
    rw [firstFault_nil]
    cases broken? with
    | none => exact ⟨nofun, nofun⟩
    | some other =>
      show Except.error other = Except.error fault ↔ _
      rw [Except.error.injEq, Option.some.injEq]
  | cons item items ih =>
    show (Except.ok item :: RunItem.met items broken?).foldlM _ table = _ ↔ _
    rw [List.foldlM_cons]
    cases hd : decodeItem label decoders item with
    | error other =>
      have hinto : decodeInto label decoders table (.ok item) = .error other := by
        rw [decodeInto, Outcome.ok_bind, hd]
        rfl
      rw [hinto, firstFault_cons_of_flawed hd]
      show Except.error other = Except.error fault ↔ _
      rw [Except.error.injEq]
    | ok a =>
      have hinto : decodeInto label decoders table (.ok item) = .ok (table.put item.kind a) :=
        decodeInto_eq_ok_iff.2 ⟨item, a, rfl, hd, rfl⟩
      rw [hinto, Outcome.ok_bind, ih, firstFault_cons_of_sound hd]

/-- One more attribute takes the place of all others of its kind. -/
theorem KeepsLast.put (h : KeepsLast decoders items table) {item : RunItem} {a : Attribute}
    (ha : Decodes decoders item a) : KeepsLast decoders (items ++ [item]) (table.put item.kind a) where
  length := (length_put ..).trans h.length
  at?_eq_some_iff := by
    intro kind b
    obtain ⟨decoder, hd, hpayload⟩ := ha
    have hl : item.kind < table.length := by
      rw [h.length]
      exact (List.getElem?_eq_some_iff.1 hd).1
    rw [at?_put, List.filter_append]
    by_cases hk : item.kind = kind
    · subst hk
      have hlast : (items.filter (·.kind = item.kind) ++
          [item].filter (·.kind = item.kind)).getLast? = some item := by
        rw [List.filter_cons_of_pos (by simp), List.filter_nil, List.getLast?_concat]
      rw [hlast, if_pos ⟨rfl, hl⟩]
      constructor
      · rintro ⟨⟩
        exact ⟨item, rfl, decoder, hd, hpayload⟩
      · rintro ⟨_, ⟨⟩, decoder', hd', hpayload'⟩
        rw [hd] at hd'
        cases hd'
        rw [hpayload] at hpayload'
        cases hpayload'
        rfl
    · have hnone : [item].filter (·.kind = kind) = [] := by simp [hk]
      rw [hnone, List.append_nil, if_neg fun hand => hk hand.1.symm]
      exact h.at?_eq_some_iff kind b

theorem KeepsLast.empty (decoders : Decoders) :
    KeepsLast decoders [] (empty decoders.length) where
  length := length_empty _
  at?_eq_some_iff := by simp

theorem keepsLast_of_foldlM (h : (items.map .ok).foldlM (decodeInto label decoders)
      (empty decoders.length) = .ok result) : KeepsLast decoders items result := by
  induction items using List.reverseRecOn generalizing result with
  | nil =>
    cases h
    exact .empty decoders
  | append_singleton items item ih =>
    rw [List.map_append, List.foldlM_append] at h
    obtain ⟨table, ht, h⟩ := Outcome.bind_eq_ok_iff.1 h
    obtain ⟨last, hlast, ⟨⟩⟩ := Outcome.bind_eq_ok_iff.1 h
    obtain ⟨_, a, ⟨⟩, ha, rfl⟩ := decodeInto_eq_ok_iff.1 hlast
    exact (ih ht).put (decodeItem_eq_ok_iff.1 ha)

/-- The last occurrences leave no choice. -/
theorem KeepsLast.unique (h : KeepsLast decoders items table)
    (h' : KeepsLast decoders items result) : table = result := by
  apply List.ext_getElem (h.length.trans h'.length.symm)
  intro kind hk hk'
  have hat : table.at? kind = result.at? kind := by
    apply Option.ext
    intro a
    rw [h.at?_eq_some_iff, h'.at?_eq_some_iff]
  rwa [at?, at?, List.getElem?_eq_getElem hk, List.getElem?_eq_getElem hk', Option.join_some,
    Option.join_some] at hat

theorem foldlM_eq_ok_iff :
    (RunItem.met items broken?).foldlM (decodeInto label decoders) (empty decoders.length) =
        .ok table ↔
      broken? = none ∧ (∀ item ∈ items, ∃ a, Decodes decoders item a) ∧
        KeepsLast decoders items table := by
  have hsound : (∃ result, (RunItem.met items broken?).foldlM (decodeInto label decoders)
      (empty decoders.length) = .ok result) ↔
        broken? = none ∧ ∀ item ∈ items, ∃ a, Decodes decoders item a := by
    rw [exists_foldlM_iff]
    cases broken? <;> simp [RunItem.met, decodeItem_eq_ok_iff, Decodes, or_imp, forall_and]
  constructor
  · intro h
    obtain ⟨rfl, hall⟩ := hsound.1 ⟨table, h⟩
    rw [RunItem.met, Option.map_none, Option.toList_none, List.append_nil] at h
    exact ⟨rfl, hall, keepsLast_of_foldlM h⟩
  · rintro ⟨rfl, hall, hlast⟩
    obtain ⟨result, hr⟩ := hsound.2 ⟨rfl, hall⟩
    rw [hr]
    rw [RunItem.met, Option.map_none, Option.toList_none, List.append_nil] at hr
    rw [(keepsLast_of_foldlM hr).unique hlast]

/-- What a run decodes to is told by what is listed in it. -/
theorem decodeRun_eq_ok_iff {bs : List UInt8} (h : RunItem.Listed bs items broken?) :
    decodeRun label decoders bs = .ok table ↔
      broken? = none ∧ (∀ item ∈ items, ∃ a, Decodes decoders item a) ∧
        KeepsLast decoders items table := by
  rw [decodeRun, h.all]
  exact foldlM_eq_ok_iff

theorem decodeRun_eq_error_iff {bs : List UInt8} (h : RunItem.Listed bs items broken?) :
    decodeRun label decoders bs = .error fault ↔
      FirstFault label decoders items broken? fault := by
  rw [decodeRun, h.all]
  exact foldlM_eq_error_iff _

end Table

namespace Chunk

def item (chunk : Chunk) : RunItem := ⟨chunk.kind, chunk.payload⟩

/-- A length field holds its size, and its padding reaches the next boundary. -/
structure Padded (chunk : Chunk) : Prop where
  short : chunk.size < 2 ^ 16
  gap : chunk.gap.length = chunk.slack

/-- The same attributes in another order, where those of one kind have kept theirs. -/
structure Reordered (chunks others : List Chunk) : Prop where
  perm : others.Perm chunks
  kinds : ∀ kind, others.filter (·.kind = kind) = chunks.filter (·.kind = kind)

variable {chunk : Chunk} {chunks others : List Chunk} {stray : List UInt8}

/-- Where all kinds are distinct, every order will do. -/
theorem Reordered.of_nodup (hp : others.Perm chunks) (hd : (chunks.map kind).Nodup) :
    Reordered chunks others := by
  refine ⟨hp, fun k => ?_⟩
  have hperm := hp.filter (·.kind = k)
  have hnodup : ((chunks.filter (·.kind = k)).map kind).Nodup :=
    hd.sublist (List.filter_sublist.map kind)
  cases hf : chunks.filter (·.kind = k) with
  | nil =>
    rw [hf] at hperm
    exact hperm.eq_nil
  | cons first more =>
    cases more with
    | nil =>
      rw [hf] at hperm
      exact List.perm_singleton.1 hperm
    | cons second more =>
      have hfirst : first.kind = k := by
        have hm : first ∈ chunks.filter (·.kind = k) := hf ▸ List.mem_cons_self
        simpa using (List.mem_filter.1 hm).2
      have hsecond : second.kind = k := by
        have hm : second ∈ chunks.filter (·.kind = k) := by simp [hf]
        simpa using (List.mem_filter.1 hm).2
      rw [hf] at hnodup
      simp [hfirst, hsecond] at hnodup

theorem Reordered.filter_items (h : Reordered chunks others) (kind : Nat) :
    (others.map item).filter (·.kind = kind) = (chunks.map item).filter (·.kind = kind) := by
  rw [List.filter_map, List.filter_map]
  exact congrArg _ (h.kinds kind)

theorem bytes_append (chunk : Chunk) (tail : List UInt8) :
    chunk.bytes ++ tail = LittleEndian.bytes 2 chunk.size ++
      (LittleEndian.bytes 2 chunk.code.toNat ++ (chunk.payload ++ (chunk.gap ++ tail))) := by
  simp only [bytes, List.append_assoc]

theorem length_header (chunk : Chunk) :
    (LittleEndian.bytes 2 chunk.size ++ LittleEndian.bytes 2 chunk.code.toNat).length = 4 := by
  simp

theorem length_front (chunk : Chunk) :
    (LittleEndian.bytes 2 chunk.size ++ LittleEndian.bytes 2 chunk.code.toNat ++
      chunk.payload).length = chunk.size := by
  rw [List.length_append, length_header, size]

theorem frontKind_append (chunk : Chunk) (tail : List UInt8) :
    RunItem.frontKind (chunk.bytes ++ tail) = chunk.kind := by
  rw [RunItem.frontKind, bytes_append, List.drop_left' (LittleEndian.length_bytes ..),
    List.take_left' (LittleEndian.length_bytes ..),
    LittleEndian.value_bytes_of_lt chunk.code.toNat_lt]
  rfl

theorem payload_append (chunk : Chunk) (tail : List UInt8) :
    ((chunk.bytes ++ tail).take chunk.size).drop 4 = chunk.payload := by
  have hbytes : chunk.bytes ++ tail = (LittleEndian.bytes 2 chunk.size ++
      LittleEndian.bytes 2 chunk.code.toNat ++ chunk.payload) ++ (chunk.gap ++ tail) := by
    simp only [bytes, List.append_assoc]
  rw [hbytes, List.take_left' chunk.length_front, List.drop_left' chunk.length_header]

theorem Padded.frontLength_append (h : chunk.Padded) (tail : List UInt8) :
    RunItem.frontLength (chunk.bytes ++ tail) = chunk.size := by
  rw [RunItem.frontLength, bytes_append, List.take_left' (LittleEndian.length_bytes ..)]
  exact LittleEndian.value_bytes_of_lt h.short

theorem Padded.length_bytes (h : chunk.Padded) : chunk.bytes.length = align4 chunk.size := by
  have hle := le_align4 chunk.size
  have hgap : chunk.gap.length = align4 chunk.size - chunk.size := h.gap
  rw [bytes, List.length_append, length_front, hgap]
  omega

/-- A padded attribute is listed in front of whatever follows it. -/
theorem Padded.listed (h : chunk.Padded) {tail : List UInt8} {items : List RunItem}
    {broken? : Option Fault} (ht : RunItem.Listed tail items broken?) :
    RunItem.Listed (chunk.bytes ++ tail) (chunk.item :: items) broken? := by
  have hlength := h.frontLength_append tail
  have hcovers : 4 ≤ RunItem.frontLength (chunk.bytes ++ tail) := by
    rw [hlength]
    exact Nat.le_add_right ..
  have hwithin : RunItem.frontLength (chunk.bytes ++ tail) ≤ (chunk.bytes ++ tail).length := by
    rw [hlength, List.length_append, h.length_bytes]
    exact (le_align4 _).trans (Nat.le_add_right ..)
  have hrest : RunItem.Listed ((chunk.bytes ++ tail).drop
      (align4 (RunItem.frontLength (chunk.bytes ++ tail)))) items broken? := by
    rw [hlength, List.drop_left' h.length_bytes]
    exact ht
  have hlisted := RunItem.Listed.item hcovers hwithin hrest
  rw [hlength, chunk.frontKind_append, chunk.payload_append] at hlisted
  exact hlisted

theorem listed_of_padded (h : ∀ chunk ∈ chunks, chunk.Padded) (hs : stray.length < 4) :
    RunItem.Listed (chunks.flatMap bytes ++ stray) (chunks.map item) none := by
  induction chunks with
  | nil => exact .stray hs
  | cons chunk chunks ih =>
    obtain ⟨hchunk, hrest⟩ := List.forall_mem_cons.1 h
    rw [List.flatMap_cons, List.append_assoc]
    exact hchunk.listed (ih hrest)

end Chunk

namespace Table

/-- A run decodes to the table of its last occurrences, or to its first fault, even where a later
attribute of the kind would have taken the place of the faulty one. So the order of attributes
makes no difference, as long as those of one kind keep theirs. -/
theorem decodeRun_listed (label : String) (decoders : Decoders) :
    (∀ bs, ∃ items broken?, RunItem.Listed bs items broken? ∧
      (∀ items' broken?', RunItem.Listed bs items' broken?' →
        items' = items ∧ broken?' = broken?) ∧
      (∀ fault, decodeRun label decoders bs = .error fault ↔
        FirstFault label decoders items broken? fault) ∧
      ∀ table, decodeRun label decoders bs = .ok table ↔
        broken? = none ∧ (∀ item ∈ items, ∃ a, Decodes decoders item a) ∧
          KeepsLast decoders items table) ∧
    ∀ (chunks others : List Chunk) (stray other : List UInt8) (table : Table),
      (∀ chunk ∈ chunks, chunk.Padded) → stray.length < 4 → other.length < 4 →
      others.Perm chunks →
      ((chunks.map Chunk.kind).Nodup ∨
        ∀ kind, others.filter (·.kind = kind) = chunks.filter (·.kind = kind)) →
      decodeRun label decoders (chunks.flatMap Chunk.bytes ++ stray) = .ok table →
      decodeRun label decoders (others.flatMap Chunk.bytes ++ other) = .ok table := by
  constructor
  · intro bs
    obtain ⟨items, broken?, h⟩ := RunItem.exists_listed bs
    refine ⟨items, broken?, h, fun _ _ h' => h.unique h', ?_, ?_⟩
    · exact fun fault => decodeRun_eq_error_iff h
    · exact fun table => decodeRun_eq_ok_iff h
  · intro chunks others stray other table hpadded hstray hother hperm hkinds hd
    have hreordered : Chunk.Reordered chunks others := by
      rcases hkinds with hnodup | hkinds
      · exact .of_nodup hperm hnodup
      · exact ⟨hperm, hkinds⟩
    have hpadded' : ∀ chunk ∈ others, chunk.Padded :=
      fun chunk hm => hpadded chunk (hperm.mem_iff.1 hm)
    obtain ⟨-, hall, hlast⟩ := (decodeRun_eq_ok_iff (Chunk.listed_of_padded hpadded hstray)).1 hd
    refine (decodeRun_eq_ok_iff (Chunk.listed_of_padded hpadded' hother)).2 ⟨rfl, ?_, ?_⟩
    · intro item hm
      exact hall item ((hperm.map Chunk.item).mem_iff.1 hm)
    · refine ⟨hlast.length, fun kind a => ?_⟩
      rw [hreordered.filter_items]
      exact hlast.at?_eq_some_iff kind a

/-- Of two values of a kind the second stays; a first one that is too short is a fault all the
same. -/
example :
    let decoders := Format.decoders [("UNSPEC", .plain .raw), ("BYTE", .plain .u8)]
    (decodeRun "TEST" decoders [5, 0, 1, 0, 7, 0, 0, 0, 5, 0, 1, 128, 8]).toOption =
        some [none, some (.value (.u8 8))] ∧
      (decodeRun "TEST" decoders [4, 0, 1, 0, 5, 0, 1, 0, 8]).toOption = none := by
  decide +kernel

end Table

end RouteNetlink
