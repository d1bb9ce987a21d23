import RouteNetlink.Proofs.Reassembly
import RouteNetlink.Proofs.RoundTrip

/-! The records that can be decoded, told by how their bytes are made up. A decoder walks a run
from its front; the grammar only says that there are parts which the run is put together
from. -/
namespace RouteNetlink

namespace Layout

variable {α β : Type} (layout : Layout α) (f : α → β) {bs : List UInt8}

theorem exists_map_exactly_iff {n : Nat} (hn : layout.width = n) :
    (∃ b, (layout.exactly bs).map f = .ok b) ↔ bs.length = n := by
  unfold exactly
  split
  · simp_all
  · simp only [hn] at *
    constructor
    · rintro ⟨_, ⟨⟩⟩
    · intro h
      contradiction

theorem exists_map_leading_iff {n : Nat} (hn : layout.width = n) :
    (∃ b, (layout.leading bs).map f = .ok b) ↔ n ≤ bs.length := by
  unfold leading
  rw [← hn]
  split
  · simp_all
  · rename_i hr
    rw [reaches_iff] at hr
    constructor
    · rintro ⟨_, ⟨⟩⟩
    · exact fun h => absurd h hr

end Layout

namespace Form

/-- The payloads of a form. Most have one width; text and bytes have any. -/
def Accepts : Form → List UInt8 → Prop
  | i8, bs | u8, bs | operState, bs => bs.length = 1
  | i16, bs | u16, bs => bs.length = 2
  | i32, bs | u32, bs | addressFlags, bs | inet6LinkFlags, bs => bs.length = 4
  | i64, bs | u64, bs => bs.length = 8
  | ip6, bs | addressCacheInfo, bs | neighborCacheInfo, bs | inet6CacheInfo, bs => bs.length = 16
  | routeCacheInfo, bs => bs.length = 32
  | address family, bs =>
    (family = .inet → bs.length = 4) ∧ (family = .inet6 → bs.length = 16)
  | counters32, bs => 92 ≤ bs.length
  | counters64, bs => 184 ≤ bs.length
  | inetSettings, bs | inet6Settings, bs => 0 < bs.length ∧ 4 ∣ bs.length
  | text, _ | raw, _ => True

theorem exists_words?_iff {bs : List UInt8} :
    (∃ values, words? bs = some values) ↔ 4 ∣ bs.length := by
  fun_induction words? bs with
  | case1 => simp
  | case2 a b c d rest ih =>
    have hlength : (a :: b :: c :: d :: rest).length = rest.length + 4 := rfl
    rw [hlength, Nat.dvd_add_self_right, ← ih]
    simp
  | case3 bs hnil hcons =>
    have hrest : bs.length = 1 ∨ bs.length = 2 ∨ bs.length = 3 := by
      rcases bs with _ | ⟨a, _ | ⟨b, _ | ⟨c, _ | ⟨d, rest⟩⟩⟩⟩
      · exact absurd rfl hnil
      · exact .inl rfl
      · exact .inr (.inl rfl)
      · exact .inr (.inr rfl)
      · exact absurd rfl (hcons a b c d rest)
    constructor
    · rintro ⟨_, ⟨⟩⟩
    · omega

theorem exists_decodeSettings_iff {bs : List UInt8} :
    (∃ values, decodeSettings bs = .ok values) ↔ 0 < bs.length ∧ 4 ∣ bs.length := by
  rw [← exists_words?_iff, List.length_pos_iff]
  unfold decodeSettings wordTable?
  by_cases hbs : bs = []
  · simp [hbs]
  · cases words? bs <;> simp [hbs]

theorem exists_decodeAddress_iff {family : Family} {bs : List UInt8} :
    (∃ value, decodeAddress family bs = .ok value) ↔ (address family).Accepts bs := by
  have hne : Family.inet ≠ Family.inet6 := by decide
  unfold decodeAddress addressWidth? Accepts
  by_cases h4 : family = .inet
  · by_cases hl : bs.length = 4 <;> simp [h4, hl, hne]
  · by_cases h6 : family = .inet6
    · by_cases hl : bs.length = 16 <;> simp [h6, hl, hne.symm]
    · simp [h4, h6]

/-- A form decodes the payloads that it accepts, and no others. -/
theorem exists_decode_iff {form : Form} {bs : List UInt8} :
    (∃ value, form.decode bs = .ok value) ↔ form.Accepts bs := by
  cases form with
  | text => simp [decode, Accepts]
  | raw => simp [decode, Accepts]
  | address family => exact exists_decodeAddress_iff
  | counters32 => exact Layout.exists_map_leading_iff _ _ Counters.width_layout32
  | counters64 => exact Layout.exists_map_leading_iff _ _ Counters.width_layout64
  | inetSettings | inet6Settings =>
    simp only [decode, Accepts, ← exists_decodeSettings_iff, Outcome.map_eq_ok_iff]
    simp
  | _ => exact Layout.exists_map_exactly_iff _ _ rfl

end Form

/-- One attribute as it stands in a run: its kind with the flag bits, its payload, and what
there is of its padding. -/
structure Chunk where
  code : UInt16
  payload : List UInt8
  gap : List UInt8

namespace Chunk

def size (chunk : Chunk) : Nat := 4 + chunk.payload.length

def kind (chunk : Chunk) : Nat := chunk.code.toNat % 2 ^ 14

/-- How far it is from the end of the payload to the next boundary. -/
def slack (chunk : Chunk) : Nat := align4 chunk.size - chunk.size

def bytes (chunk : Chunk) : List UInt8 :=
  LittleEndian.bytes 2 chunk.size ++ LittleEndian.bytes 2 chunk.code.toNat ++ chunk.payload ++
    chunk.gap

/-- A length field holds its size, and the payload is one that its kind accepts. -/
structure Fits (accepts : List (List UInt8 → Prop)) (chunk : Chunk) : Prop where
  short : chunk.size < 2 ^ 16
  gap : chunk.gap.length ≤ chunk.slack
  accepted : ∃ accept, accepts[chunk.kind]? = some accept ∧ accept chunk.payload

end Chunk

/-- Attributes one behind the other, and fewer than four bytes after them. Only the last may
have its padding cut. -/
def IsRun (accepts : List (List UInt8 → Prop)) (bs : List UInt8) : Prop :=
  ∃ (chunks : List Chunk) (stray : List UInt8),
    bs = chunks.flatMap Chunk.bytes ++ stray ∧ stray.length < 4 ∧
      (∀ chunk ∈ chunks, chunk.Fits accepts) ∧
      ∀ chunk ∈ chunks.dropLast, chunk.gap.length = chunk.slack

namespace RunItem

variable {accepts : List (List UInt8 → Prop)} {bs rest : List UInt8} {code : UInt16}
  {payload : List UInt8}

theorem slack_eq (chunk : Chunk) :
    chunk.slack = align4 chunk.payload.length - chunk.payload.length := by
  unfold Chunk.slack Chunk.size align4
  omega

/-- A chunk is split off with as much behind it as its padding takes. -/
theorem split?_bytes {chunk : Chunk} (h : chunk.size < 2 ^ 16) (tail : List UInt8) :
    split? (chunk.bytes ++ tail) =
      some ((chunk.code, chunk.payload), (chunk.gap ++ tail).drop chunk.slack) := by
  have hlength : (UInt16.ofNat chunk.size).toNat = chunk.size := by
    rw [UInt16.toNat_ofNat', Nat.mod_eq_of_lt h]
  have hbytes : chunk.bytes ++ tail =
      header.encode (UInt16.ofNat chunk.size, chunk.code) ++
        (chunk.payload ++ (chunk.gap ++ tail)) := by
    have hencode : header.encode (UInt16.ofNat chunk.size, chunk.code) =
        LittleEndian.bytes 2 (UInt16.ofNat chunk.size).toNat ++
          LittleEndian.bytes 2 chunk.code.toNat := rfl
    rw [hencode, hlength, Chunk.bytes]
    simp only [List.append_assoc]
  have hsize : chunk.size - headerSize = chunk.payload.length := Nat.add_sub_cancel_left ..
  have hreach : headerSize ≤ chunk.size ∧
      reaches chunk.payload.length (chunk.payload ++ (chunk.gap ++ tail)) = true :=
    ⟨Nat.le_add_right _ _, (reaches_iff _ _).2 (by simp)⟩
  have hdrop : (chunk.payload ++ (chunk.gap ++ tail)).drop (align4 chunk.payload.length) =
      (chunk.gap ++ tail).drop chunk.slack := by
    rw [slack_eq, List.drop_append, List.drop_eq_nil_of_le (le_align4 _), List.nil_append]
  simp only [split?, hbytes, Layout.split?_encode, hlength, hsize, if_pos hreach, hdrop,
    List.take_left']

/-- What is split off is a chunk, the padding of which is whole unless nothing follows. -/
theorem exists_chunk_of_split? (h : split? bs = some ((code, payload), rest)) :
    ∃ gap, bs = (Chunk.mk code payload gap).bytes ++ rest ∧
      (Chunk.mk code payload gap).size < 2 ^ 16 ∧
      gap.length ≤ (Chunk.mk code payload gap).slack ∧
      (gap.length = (Chunk.mk code payload gap).slack ∨ rest = []) := by
  unfold split? at h
  split at h
  · cases h
  · rename_i length kind tail hs
    obtain rfl := header.split?_eq_some_iff.1 hs
    dsimp only at h
    split at h
    · rename_i hr
      rw [reaches_iff] at hr
      cases h
      have hs : headerSize = 4 := rfl
      have hle := le_align4 (length.toNat - headerSize)
      have hpayload : (tail.take (length.toNat - headerSize)).length =
          length.toNat - headerSize := List.length_take_of_le hr.2
      have hsize (gap : List UInt8) :
          (Chunk.mk code (tail.take (length.toNat - headerSize)) gap).size = length.toNat := by
        simp only [Chunk.size, hpayload]
        omega
      refine ⟨(tail.drop (length.toNat - headerSize)).take
        (align4 (length.toNat - headerSize) - (length.toNat - headerSize)), ?_, ?_, ?_, ?_⟩
      · have hjoin : (tail.drop (length.toNat - headerSize)).take
              (align4 (length.toNat - headerSize) - (length.toNat - headerSize)) ++
            tail.drop (align4 (length.toNat - headerSize)) =
              tail.drop (length.toNat - headerSize) := by
          have hdrop : tail.drop (align4 (length.toNat - headerSize)) =
              (tail.drop (length.toNat - headerSize)).drop
                (align4 (length.toNat - headerSize) - (length.toNat - headerSize)) := by
            rw [List.drop_drop]
            congr 1
            omega
          rw [hdrop, List.take_append_drop]
        simp only [Chunk.bytes, hsize, List.append_assoc, hjoin, List.take_append_drop]
        rfl
      · rw [hsize]
        exact length.toNat_lt
      · rw [slack_eq, hpayload]
        exact List.length_take_le _ _
      · rw [slack_eq, hpayload, List.length_take, List.length_drop, ← List.length_eq_zero_iff,
          List.length_drop]
        omega
    · cases h

end RunItem

namespace IsRun

variable {accepts : List (List UInt8 → Prop)} {bs rest : List UInt8} {code : UInt16}
  {payload : List UInt8}

theorem of_short (h : bs.length < 4) : IsRun accepts bs := ⟨[], bs, rfl, h, by simp, by simp⟩

/-- What is long enough to be more than padding starts with a chunk. -/
theorem exists_split? (h : IsRun accepts bs) (hl : RunItem.headerSize ≤ bs.length) :
    RunItem.split? bs ≠ none := by
  obtain ⟨chunks, stray, rfl, hstray, hfits, -⟩ := h
  cases chunks with
  | nil => exact absurd hstray (Nat.not_lt.2 hl)
  | cons chunk chunks =>
    have hshort := (hfits chunk List.mem_cons_self).short
    rw [List.flatMap_cons, List.append_assoc, RunItem.split?_bytes hshort]
    simp

theorem of_cons {chunk : Chunk} {tail : List UInt8} (hf : chunk.Fits accepts)
    (hg : chunk.gap.length = chunk.slack ∨ tail = []) (h : IsRun accepts tail) :
    IsRun accepts (chunk.bytes ++ tail) := by
  rcases hg with hg | rfl
  · obtain ⟨chunks, stray, rfl, hstray, hfits, hgaps⟩ := h
    refine ⟨chunk :: chunks, stray, ?_, hstray, List.forall_mem_cons.2 ⟨hf, hfits⟩, ?_⟩
    · rw [List.flatMap_cons, List.append_assoc]
    · intro other ho
      cases chunks with
      | nil => cases ho
      | cons next chunks =>
        rcases List.mem_cons.1 ho with rfl | ho
        · exact hg
        · exact hgaps other ho
  · exact ⟨[chunk], [], by simp, by simp, by simpa using hf, by simp⟩

/-- What is split off a run leaves a run behind, and is accepted. -/
theorem iff_of_split? (h : RunItem.split? bs = some ((code, payload), rest)) :
    IsRun accepts bs ↔
      (∃ accept, accepts[code.toNat % 2 ^ 14]? = some accept ∧ accept payload) ∧
        IsRun accepts rest := by
  constructor
  · rintro ⟨chunks, stray, rfl, hstray, hfits, hgaps⟩
    cases chunks with
    | nil =>
      have hle := RunItem.length_le_of_split? h
      have hs : RunItem.headerSize = 4 := rfl
      simp only [List.flatMap_nil, List.nil_append] at hle
      omega
    | cons chunk chunks =>
      obtain ⟨hshort, hgap, haccepted⟩ := hfits chunk List.mem_cons_self
      rw [List.flatMap_cons, List.append_assoc, RunItem.split?_bytes hshort] at h
      cases h
      refine ⟨haccepted, ?_⟩
      cases chunks with
      | nil =>
        -- cut padding takes of the stray bytes what it lacks
        apply of_short
        simp only [List.flatMap_nil, List.nil_append, List.length_drop, List.length_append]
        omega
      | cons next chunks =>
        have hwhole := hgaps chunk (by simp [List.dropLast])
        rw [List.drop_left' hwhole]
        refine ⟨next :: chunks, stray, rfl, hstray, ?_, ?_⟩
        · exact fun other ho => hfits other (List.mem_cons_of_mem _ ho)
        · exact fun other ho => hgaps other (List.mem_cons_of_mem _ ho)
  · rintro ⟨haccepted, hrest⟩
    obtain ⟨gap, rfl, hshort, hgap, hwhole⟩ := RunItem.exists_chunk_of_split? h
    exact of_cons ⟨hshort, hgap, haccepted⟩ hwhole hrest

/-- A walk from the front meets accepted attributes alone just where there is such a way to put
the bytes together. -/
theorem iff_all (accepts : List (List UInt8 → Prop)) (bs : List UInt8) :
    IsRun accepts bs ↔ ∀ item? ∈ RunItem.all bs, ∃ item, item? = .ok item ∧
      ∃ accept, accepts[item.kind]? = some accept ∧ accept item.payload := by
  induction hn : bs.length using Nat.strongRecOn generalizing bs with
  | ind n ih =>
    have hs : RunItem.headerSize = 4 := rfl
    by_cases hl : bs.length < RunItem.headerSize
    · simp [RunItem.all_of_short hl, of_short hl]
    · cases h : RunItem.split? bs with
      | none =>
        have hall := RunItem.all_of_split?_eq_none h (Nat.not_lt.1 hl)
        have hno : ¬IsRun accepts bs := fun hr => hr.exists_split? (Nat.not_lt.1 hl) h
        simp [hall, hno]
      | some split =>
        obtain ⟨⟨code, payload⟩, rest⟩ := split
        have hle := RunItem.length_le_of_split? h
        have hrest := ih rest.length (by omega) rest rfl
        rw [iff_of_split? h, RunItem.all_of_split? h, hrest, List.forall_mem_cons,
          ← RunItem.mask_eq_mod]
        simp

end IsRun

namespace Table

variable {label : String} {decoders : Decoders}

theorem exists_foldlM_iff (items : List (Except Fault RunItem)) (table : Table) :
    (∃ result, items.foldlM (decodeInto label decoders) table = .ok result) ↔
      ∀ item? ∈ items, ∃ item, item? = .ok item ∧ ∃ a, decodeItem label decoders item = .ok a := by
  induction items generalizing table with
  | nil => exact iff_of_true ⟨table, rfl⟩ (by simp)
  | cons item? items ih =>
    simp only [List.foldlM_cons, List.forall_mem_cons, Outcome.bind_eq_ok_iff]
    constructor
    · rintro ⟨result, next, hn, hr⟩
      obtain ⟨item, a, rfl, ha, rfl⟩ := decodeInto_eq_ok_iff.1 hn
      exact ⟨⟨item, rfl, a, ha⟩, (ih _).1 ⟨result, hr⟩⟩
    · rintro ⟨⟨item, rfl, a, ha⟩, hitems⟩
      obtain ⟨result, hr⟩ := (ih (table.put item.kind a)).2 hitems
      exact ⟨result, _, decodeInto_eq_ok_iff.2 ⟨item, a, rfl, ha, rfl⟩, hr⟩

end Table

namespace Format

mutual

def Accepts : Format → List UInt8 → Prop
  | plain form => form.Accepts
  | nested _ _ rows => IsRun (acceptors rows)

def acceptors : List (String × Format) → List (List UInt8 → Prop)
  | [] => []
  | (_, format) :: rows => Accepts format :: acceptors rows

end

theorem acceptors_eq_map (rows : List (String × Format)) :
    acceptors rows = rows.map fun row => Accepts row.2 := by
  induction rows with
  | nil => simp [acceptors]
  | cons row rows ih => simp [acceptors, ih]

variable (label : String) {rows : List (String × Format)}

theorem exists_decodeItem_iff
    (h : ∀ row ∈ rows, ∀ bs, (∃ a, row.2.decode bs = .ok a) ↔ row.2.Accepts bs)
    (item : RunItem) :
    (∃ a, Table.decodeItem label (decoders rows) item = .ok a) ↔
      ∃ accept, (acceptors rows)[item.kind]? = some accept ∧ accept item.payload := by
  simp only [Table.decodeItem_eq_ok_iff, decoders_eq_map, acceptors_eq_map, List.getElem?_map]
  cases hrow : rows[item.kind]? with
  | none => simp
  | some row => simpa using h row (List.mem_of_getElem? hrow) item.payload

theorem exists_decodeRun_iff
    (h : ∀ row ∈ rows, ∀ bs, (∃ a, row.2.decode bs = .ok a) ↔ row.2.Accepts bs)
    (bs : List UInt8) :
    (∃ table, Table.decodeRun label (decoders rows) bs = .ok table) ↔
      IsRun (acceptors rows) bs := by
  simp only [Table.decodeRun, Table.exists_foldlM_iff, IsRun.iff_all,
    exists_decodeItem_iff label h]

/-- A format decodes the payloads that it accepts, and no others. -/
theorem exists_decode_iff (format : Format) (bs : List UInt8) :
    (∃ a, format.decode bs = .ok a) ↔ format.Accepts bs := by
  induction format generalizing bs with
  | plain form =>
    rw [decode, Accepts, ← Form.exists_decode_iff]
    simp [Outcome.map_eq_ok_iff]
  | nested nest label rows ih =>
    rw [decode, Accepts, ← exists_decodeRun_iff label ih]
    simp [Outcome.map_eq_ok_iff]

end Format

namespace Schema

def IsRun (schema : Schema) (bs : List UInt8) : Prop :=
  RouteNetlink.IsRun (Format.acceptors schema.rows) bs

theorem exists_decode_iff (schema : Schema) (bs : List UInt8) :
    (∃ table, schema.decode bs = .ok table) ↔ schema.IsRun bs :=
  Format.exists_decodeRun_iff schema.label (fun row _ => row.2.exists_decode_iff) bs

end Schema

theorem Layout.u8_decode (b : UInt8) : Layout.u8.decode [b] = b := by
  have hb : Layout.u8.encode b = [b] := congrArg (· :: []) UInt8.ofNat_toNat
  rw [← hb, Layout.decode_encode]

namespace Cursor

variable {α : Type} {layout : Layout α} {bs : List UInt8}

theorem read_of_le (h : layout.width ≤ bs.length) :
    (Cursor.mk bs).read layout = .ok (layout.decode (bs.take layout.width),
      ⟨bs.drop layout.width⟩) := by
  have hr : reaches layout.width bs = true := (reaches_iff _ _).2 h
  simp only [read, Layout.split?, if_pos hr]

theorem require_of_lt {n : Nat} (h : bs.length < n) :
    (Cursor.mk bs).require n = .error (.truncated n bs.length) := if_pos h

end Cursor

namespace Subject

/-- The attributes of a subject, where the first byte of its fixed part is this family. -/
def schema (family : Family) : Subject → Schema
  | link => .link family
  | address => .address family
  | route => .route family
  | neighbor => .neighbor family
  | networkNamespace => .networkNamespace

/-- The entity that a whole fixed part describes. -/
def entity : Subject → List UInt8 → Entity
  | link, fixed => .link (.ofWire (LinkEntity.wire.decode fixed))
  | address, fixed => .address (.ofWire (AddressEntity.wire.decode fixed))
  | route, fixed => .route (.ofWire (RouteEntity.wire.decode fixed))
  | neighbor, fixed => .neighbor (.ofWire (NeighborEntity.wire.decode fixed))
  | networkNamespace, fixed => .networkNamespace ⟨Layout.u8.decode (fixed.take 1)⟩

/-- A whole fixed part is split off. -/
theorem split_of_whole (subject : Subject) {body : List UInt8}
    (h : subject.fixedSize ≤ body.length) :
    subject.split body =
      .ok (subject.entity (body.take subject.fixedSize), body.drop subject.fixedSize) := by
  have hr : (Cursor.mk body).require subject.fixedSize = .ok () := Cursor.require_of_le h
  cases subject with
  | networkNamespace =>
    have hread : (Cursor.mk body).read Layout.u8 =
        .ok (Layout.u8.decode (body.take 1), ⟨body.drop 1⟩) :=
      Cursor.read_of_le ((Nat.le_add_left 1 3).trans h)
    simp only [split, hread, Outcome.ok_bind, Cursor.skip, entity, fixedSize, List.take_take,
      List.drop_drop]
    rfl
  | _ =>
    simp only [fixedSize] at hr
    simp only [split, hr, Cursor.read_of_le h, Outcome.ok_bind]
    rfl

/-- The family of a whole fixed part is its first byte. -/
theorem schema_entity (subject : Subject) {family : UInt8} {fixed : List UInt8}
    (h : (family :: fixed).length = subject.fixedSize) :
    (subject.entity (family :: fixed)).schema = subject.schema ⟨family⟩ := by
  have hfirst : Layout.u8.decode [family] = family := Layout.u8_decode family
  cases subject with
  | networkNamespace => rfl
  | link => exact congrArg (fun code => Schema.link ⟨code⟩) hfirst
  | address => exact congrArg (fun code => Schema.address ⟨code⟩) hfirst
  | route => exact congrArg (fun code => Schema.route ⟨code⟩) hfirst
  | neighbor => exact congrArg (fun code => Schema.neighbor ⟨code⟩) hfirst

/-- Only of a namespace the fixed part may be cut, behind the family. -/
theorem split_of_cut {subject : Subject} {body : List UInt8}
    (h : body.length < subject.fixedSize) (hs : subject ≠ networkNamespace) :
    subject.split body = .error (.truncated subject.fixedSize body.length) := by
  cases subject with
  | networkNamespace => exact absurd rfl hs
  | _ =>
    have hr := Cursor.require_of_lt h
    simp only [fixedSize] at hr
    simp only [split, hr]
    rfl

theorem split_networkNamespace_of_cut {family : UInt8} {rest : List UInt8}
    (h : (family :: rest).length < 4) :
    networkNamespace.split (family :: rest) = .ok (.networkNamespace ⟨family⟩, []) := by
  have hrest : rest.drop 3 = [] := by
    rw [List.length_cons] at h
    exact List.drop_eq_nil_of_le (by omega)
  simp only [split, Cursor.read_u8, Outcome.ok_bind, Cursor.skip, hrest]
  rfl

end Subject

namespace Message

def declaredLength (record : List UInt8) : Nat := LittleEndian.value (record.take 4)

def declaredKind (record : List UInt8) : RecordKind :=
  ⟨UInt16.ofNat (LittleEndian.value ((record.drop 4).take 2))⟩

/-- What records of a kind have behind their header. -/
inductive IsBody (kind : RecordKind) : List UInt8 → Prop where
  | control (h : kind = .noop ∨ kind = .done) (body : List UInt8) : IsBody kind body
  | reply (h : kind = .error) {body : List UInt8} (hl : 20 ≤ body.length) : IsBody kind body
  /-- A query may have less than the fixed part of its subject, but not nothing. -/
  | query (hq : kind.isQuery = true) {subject : Subject} (hs : kind.subject? = some subject)
      {body : List UInt8} (hne : body ≠ []) (hl : body.length < subject.fixedSize) :
      IsBody kind body
  | entity {subject : Subject} (hs : kind.subject? = some subject) {family : UInt8}
      {fixed run : List UInt8} (hl : (family :: fixed).length = subject.fixedSize)
      (hr : (subject.schema ⟨family⟩).IsRun run) : IsBody kind (family :: fixed ++ run)
  | cutNamespace (h : kind = .newNamespace ∨ kind = .deleteNamespace) {body : List UInt8}
      (hne : body ≠ []) (hl : body.length < 4) : IsBody kind body

/-- A header, and a body as its kind asks for up to the declared length. What stands behind that
does not matter. -/
structure IsRecord (record : List UInt8) : Prop where
  header : 16 ≤ record.length
  covered : 16 ≤ declaredLength record
  whole : declaredLength record ≤ record.length
  body : IsBody (declaredKind record) ((record.take (declaredLength record)).drop 16)

variable {record body : List UInt8} {kind : RecordKind} {subject : Subject} {header : Header}

theorem length_of_decode_header (h : Header.decode record = .ok header) :
    header.length.toNat = declaredLength record := by
  obtain ⟨fields, hf, -⟩ := Outcome.map_eq_ok_iff.1 h
  have hl : Header.size ≤ record.length := Header.wire.width_le_of_leading hf
  have hs : Header.size = 16 := rfl
  have hlt := LittleEndian.value_lt (record.take 4)
  rw [List.length_take_of_le (by omega)] at hlt
  rw [Header.length_of_decode h]
  exact Nat.mod_eq_of_lt hlt

theorem kind_of_decode_header (h : Header.decode record = .ok header) :
    header.kind = declaredKind record := by
  unfold Header.decode Layout.leading at h
  split at h
  · cases h
    simp only [Header.ofWire, Header.wire, Layout.pair, List.drop_take, List.take_take]
    rfl
  · cases h

end Message

namespace Opened

/-- The run of what was opened is one that its schema knows. -/
def Resolves : Opened → Prop
  | complete _ => True
  | attributed _ e run => e.schema.IsRun run

variable {body : List UInt8} {header : Header} {subject : Subject}

theorem exists_map_complete_iff {outcome : Except Fault Message} :
    (∃ opened, outcome.map complete = .ok opened ∧ opened.Resolves) ↔
      ∃ message, outcome = .ok message := by
  constructor
  · rintro ⟨_, ho, -⟩
    obtain ⟨message, hm, -⟩ := Outcome.map_eq_ok_iff.1 ho
    exact ⟨message, hm⟩
  · rintro ⟨message, rfl⟩
    exact ⟨_, rfl, trivial⟩

theorem exists_query_iff (header : Header) (body : List UInt8) :
    (∃ message, query header body = .ok message) ↔ body ≠ [] := by
  cases body with
  | nil => exact iff_of_false (by rintro ⟨_, ⟨⟩⟩) (by simp)
  | cons family rest =>
    have hread := Cursor.read_u8 family rest
    exact iff_of_true ⟨_, by rw [query, hread]; rfl⟩ (by simp)

/-- Of an answer nothing is read but its own body. -/
theorem reply_of_whole (header : Header) (hl : replyWidth ≤ body.length) :
    reply header body =
      .ok ⟨header, .reply (Layout.i32.decode ((body.take replyWidth).take 4))
        (Header.ofWire (Header.wire.decode ((body.take replyWidth).drop 4)))⟩ := by
  have hw : replyWidth = 20 := rfl
  have hr : (Cursor.mk body).require replyWidth = .ok () := Cursor.require_of_le hl
  have hcode : Layout.i32.width ≤ body.length :=
    show 4 ≤ body.length by omega
  have hheader : Header.wire.width ≤ (body.drop Layout.i32.width).length := by
    rw [List.length_drop]
    show 16 ≤ body.length - 4
    omega
  simp only [reply, hr, Cursor.read_of_le hcode, Cursor.read_of_le hheader, Outcome.ok_bind,
    List.take_take, List.drop_take]
  rfl

theorem reply_of_cut (header : Header) (hl : body.length < replyWidth) :
    reply header body = .error (.truncated replyWidth body.length) := by
  simp only [reply, Cursor.require_of_lt hl]
  rfl

theorem exists_reply_iff (header : Header) (body : List UInt8) :
    (∃ message, reply header body = .ok message) ↔ 20 ≤ body.length := by
  by_cases hl : 20 ≤ body.length
  · exact iff_of_true ⟨_, reply_of_whole header hl⟩ hl
  · rw [reply_of_cut header (Nat.not_le.1 hl)]
    exact iff_of_false (by rintro ⟨_, ⟨⟩⟩) hl

theorem isBody_of_split {kind : RecordKind} {e : Entity} {run : List UInt8}
    (hs : kind.subject? = some subject)
    (hq : ¬(kind.isQuery = true ∧ body.length < subject.fixedSize))
    (h : subject.split body = .ok (e, run)) (hr : e.schema.IsRun run) :
    Message.IsBody kind body := by
  by_cases hl : subject.fixedSize ≤ body.length
  · rw [subject.split_of_whole hl] at h
    cases h
    have hpos : 0 < subject.fixedSize := by cases subject <;> decide
    have hfront := List.length_take_of_le hl
    obtain ⟨family, fixed, hfixed⟩ := List.exists_cons_of_length_pos (hfront ▸ hpos)
    rw [hfixed] at hr hfront
    rw [subject.schema_entity hfront] at hr
    rw [← List.take_append_drop subject.fixedSize body, hfixed]
    exact .entity hs hfront hr
  · have hcut := Nat.not_le.1 hl
    by_cases hsubject : subject = .networkNamespace
    · subst hsubject
      have hkind : kind = .newNamespace ∨ kind = .deleteNamespace := by
        have hmem := Subject.subject?_eq_some_iff.1 hs
        simp only [Subject.kinds, List.mem_cons, List.not_mem_nil, or_false] at hmem
        rcases hmem with rfl | rfl | rfl
        · exact .inl rfl
        · exact .inr rfl
        · exact absurd ⟨rfl, hcut⟩ hq
      refine .cutNamespace hkind ?_ hcut
      rintro rfl
      cases h
    · rw [Subject.split_of_cut hcut hsubject] at h
      cases h

theorem isBody_of_ofBody {opened : Opened} (h : ofBody header body = .ok opened)
    (hr : opened.Resolves) : Message.IsBody header.kind body := by
  unfold ofBody at h
  cases hs : header.kind.subject? with
  | none =>
    rw [hs] at h
    dsimp only at h
    split at h
    · exact .control (.inl (by assumption)) body
    · split at h
      · exact .control (.inr (by assumption)) body
      · split at h
        · obtain ⟨message, hm, -⟩ := Outcome.map_eq_ok_iff.1 h
          exact .reply (by assumption) ((exists_reply_iff header body).1 ⟨message, hm⟩)
        · cases h
  | some subject =>
    rw [hs] at h
    dsimp only at h
    split at h
    · rename_i hq
      obtain ⟨message, hm, -⟩ := Outcome.map_eq_ok_iff.1 h
      exact .query hq.1 hs ((exists_query_iff header body).1 ⟨message, hm⟩) hq.2
    · rename_i hq
      obtain ⟨⟨e, run⟩, hsplit, rfl⟩ := Outcome.map_eq_ok_iff.1 h
      exact isBody_of_split hs hq hsplit hr

theorem ofBody_of_isBody (h : Message.IsBody header.kind body) :
    ∃ opened, ofBody header body = .ok opened ∧ opened.Resolves := by
  unfold ofBody
  cases h with
  | control h body =>
    rcases h with h | h
    · rw [h]
      exact ⟨_, rfl, trivial⟩
    · rw [h]
      exact ⟨_, rfl, trivial⟩
  | reply h hl =>
    rw [h]
    exact exists_map_complete_iff.2 ((exists_reply_iff header body).2 hl)
  | query hq hs hne hl =>
    rw [hs]
    dsimp only
    rw [if_pos ⟨hq, hl⟩]
    exact exists_map_complete_iff.2 ((exists_query_iff header body).2 hne)
  | @entity subject hs family fixed run hl hr =>
    have hle : subject.fixedSize ≤ (family :: fixed ++ run).length := by
      rw [← hl, List.length_append]
      exact Nat.le_add_right ..
    have hsplit := subject.split_of_whole hle
    rw [List.take_left' hl, List.drop_left' hl] at hsplit
    rw [hs]
    dsimp only
    rw [if_neg fun hq => absurd hq.2 (Nat.not_lt.2 hle), hsplit]
    refine ⟨_, rfl, ?_⟩
    rw [Resolves, subject.schema_entity hl]
    exact hr
  | cutNamespace h hne hl =>
    have hs : header.kind.subject? = some .networkNamespace ∧ header.kind.isQuery = false := by
      rcases h with h | h <;> rw [h] <;> exact ⟨rfl, rfl⟩
    rw [hs.1]
    dsimp only
    rw [if_neg (by simp [hs.2])]
    obtain ⟨family, rest, rfl⟩ := List.exists_cons_of_ne_nil hne
    rw [Subject.split_networkNamespace_of_cut hl]
    exact ⟨_, rfl, IsRun.of_short (Nat.zero_lt_succ 3)⟩

end Opened

namespace Message

variable {record : List UInt8}

theorem exists_decode_iff_opened (record : List UInt8) :
    (∃ message, decode record = .ok message) ↔
      ∃ opened, Opened.ofRecord record = .ok opened ∧ opened.Resolves := by
  constructor
  · rintro ⟨message, h⟩
    obtain ⟨opened, ho, h⟩ := Outcome.bind_eq_ok_iff.1 h
    refine ⟨opened, ho, ?_⟩
    cases opened with
    | complete message => trivial
    | attributed header e run =>
      obtain ⟨table, ht, -⟩ := Outcome.bind_eq_ok_iff.1 h
      exact (e.schema.exists_decode_iff run).1 ⟨table, ht⟩
  · rintro ⟨opened, ho, hr⟩
    cases opened with
    | complete message => exact ⟨message, by rw [decode, ho]; rfl⟩
    | attributed header e run =>
      obtain ⟨table, ht⟩ := (e.schema.exists_decode_iff run).2 hr
      refine ⟨⟨header, .entity e table⟩, ?_⟩
      simp only [decode, ho, Outcome.ok_bind, ht]
      rfl

theorem ofRecord_of_covered {header : Header} (hh : Header.decode record = .ok header)
    (hcovered : 16 ≤ declaredLength record) (hwhole : declaredLength record ≤ record.length) :
    Opened.ofRecord record =
      Opened.ofBody header ((record.take (declaredLength record)).drop 16) := by
  have hin : ¬(declaredLength record < Header.size ∨ record.length < declaredLength record) :=
    not_or.2 ⟨Nat.not_lt.2 hcovered, Nat.not_lt.2 hwhole⟩
  simp only [Opened.ofRecord, hh, Outcome.ok_bind, length_of_decode_header hh, if_neg hin]
  rfl

/-- Where a record is too short for its header or for its length, or its length for its header,
nothing else of it is looked at. -/
theorem ofRecord_of_uncovered
    (h : ¬(16 ≤ declaredLength record ∧ declaredLength record ≤ record.length)) :
    Opened.ofRecord record = .error (.truncated
      (if record.length < 16 then 16 else max (declaredLength record) 16) record.length) := by
  have hs : Header.size = 16 := rfl
  by_cases hl : record.length < 16
  · have hr : ¬reaches Header.wire.width record = true := by
      rw [reaches_iff, Header.wire_width]
      omega
    rw [Opened.ofRecord, Header.decode, Layout.leading, if_neg hr, if_pos hl]
    rfl
  · obtain ⟨header, hh⟩ := Header.exists_decode (Nat.not_lt.1 hl)
    have hout : declaredLength record < 16 ∨ record.length < declaredLength record := by omega
    rw [if_neg hl]
    simp only [Opened.ofRecord, hh, Outcome.ok_bind, length_of_decode_header hh, hs]
    exact if_pos hout

theorem ofRecord_eq_ok_iff {opened : Opened} :
    Opened.ofRecord record = .ok opened ↔
      ∃ header, Header.decode record = .ok header ∧ 16 ≤ declaredLength record ∧
        declaredLength record ≤ record.length ∧
        Opened.ofBody header ((record.take (declaredLength record)).drop 16) = .ok opened := by
  constructor
  · intro h
    by_cases hin : 16 ≤ declaredLength record ∧ declaredLength record ≤ record.length
    · obtain ⟨hcovered, hwhole⟩ := hin
      obtain ⟨header, hh⟩ := Header.exists_decode (hcovered.trans hwhole)
      rw [ofRecord_of_covered hh hcovered hwhole] at h
      exact ⟨header, hh, hcovered, hwhole, h⟩
    · rw [ofRecord_of_uncovered hin] at h
      cases h
  · rintro ⟨header, hh, hcovered, hwhole, h⟩
    rw [ofRecord_of_covered hh hcovered hwhole, h]

/-- A query that has less than the fixed part of what it asks about. -/
def IsShortQuery (kind : RecordKind) (body : List UInt8) : Prop :=
  kind.isQuery = true ∧
    ∃ subject : Subject, kind.subject? = some subject ∧ body.length < subject.fixedSize

def IsQuery (message : Message) : Prop := ∃ family, message.body = .query family

end Message

namespace Opened

variable {body : List UInt8} {header : Header} {message : Message}

theorem isQuery_of_query (h : query header body = .ok message) : message.IsQuery := by
  obtain ⟨⟨family, _⟩, -, h⟩ := Outcome.bind_eq_ok_iff.1 h
  cases h
  exact ⟨⟨family⟩, rfl⟩

theorem not_isQuery_of_reply (h : reply header body = .ok message) : ¬message.IsQuery := by
  obtain ⟨_, _, h⟩ := Outcome.bind_eq_ok_iff.1 h
  obtain ⟨_, _, h⟩ := Outcome.bind_eq_ok_iff.1 h
  obtain ⟨_, _, h⟩ := Outcome.bind_eq_ok_iff.1 h
  cases h
  rintro ⟨_, ⟨⟩⟩

/-- What is opened without a run is a short query, or about nothing. -/
theorem isQuery_iff_of_complete (h : ofBody header body = .ok (complete message)) :
    message.IsQuery ↔ Message.IsShortQuery header.kind body := by
  unfold ofBody at h
  cases hs : header.kind.subject? with
  | none =>
    have hno : ¬Message.IsShortQuery header.kind body := by
      rintro ⟨-, subject, hsubject, -⟩
      rw [hs] at hsubject
      cases hsubject
    refine iff_of_false ?_ hno
    rw [hs] at h
    dsimp only at h
    split_ifs at h
    · cases h
      rintro ⟨_, ⟨⟩⟩
    · cases h
      rintro ⟨_, ⟨⟩⟩
    · obtain ⟨other, ho, he⟩ := Outcome.map_eq_ok_iff.1 h
      cases he
      exact not_isQuery_of_reply ho
  | some subject =>
    rw [hs] at h
    dsimp only at h
    split_ifs at h with hq
    · obtain ⟨other, ho, he⟩ := Outcome.map_eq_ok_iff.1 h
      cases he
      exact iff_of_true (isQuery_of_query ho) ⟨hq.1, subject, hs, hq.2⟩
    · obtain ⟨_, -, he⟩ := Outcome.map_eq_ok_iff.1 h
      cases he

theorem not_isShortQuery_of_attributed {other : Header} {e : Entity} {run : List UInt8}
    (h : ofBody header body = .ok (attributed other e run)) :
    ¬Message.IsShortQuery header.kind body := by
  rintro ⟨hq, subject, hs, hl⟩
  unfold ofBody at h
  rw [hs] at h
  dsimp only at h
  rw [if_pos ⟨hq, hl⟩] at h
  obtain ⟨_, -, he⟩ := Outcome.map_eq_ok_iff.1 h
  cases he

end Opened

namespace Message

/-- A record can be decoded just where it is made up as its kind asks for, down to the nested
runs. It becomes a message with nothing but a family where it is a short query. -/
theorem exists_decode_iff_isRecord (record : List UInt8) :
    ((∃ message, decode record = .ok message) ↔ IsRecord record) ∧
      ∀ message, decode record = .ok message →
        (message.IsQuery ↔ IsShortQuery (declaredKind record)
          ((record.take (declaredLength record)).drop 16)) := by
  constructor
  · rw [exists_decode_iff_opened]
    constructor
    · rintro ⟨opened, ho, hr⟩
      obtain ⟨header, hh, hcovered, hwhole, hbody⟩ := ofRecord_eq_ok_iff.1 ho
      have hkind := kind_of_decode_header hh
      exact ⟨hcovered.trans hwhole, hcovered, hwhole,
        hkind ▸ Opened.isBody_of_ofBody hbody hr⟩
    · rintro ⟨hheader, hcovered, hwhole, hbody⟩
      obtain ⟨header, hh⟩ := Header.exists_decode hheader
      rw [← kind_of_decode_header hh] at hbody
      obtain ⟨opened, ho, hr⟩ := Opened.ofBody_of_isBody hbody
      exact ⟨opened, ofRecord_eq_ok_iff.2 ⟨header, hh, hcovered, hwhole, ho⟩, hr⟩
  · intro message h
    obtain ⟨opened, ho, h⟩ := Outcome.bind_eq_ok_iff.1 h
    obtain ⟨header, hh, -, -, hbody⟩ := ofRecord_eq_ok_iff.1 ho
    rw [← kind_of_decode_header hh]
    cases opened with
    | complete other =>
      cases h
      exact Opened.isQuery_iff_of_complete hbody
    | attributed other e run =>
      refine iff_of_false ?_ (Opened.not_isShortQuery_of_attributed hbody)
      obtain ⟨table, -, h⟩ := Outcome.bind_eq_ok_iff.1 h
      cases h
      rintro ⟨_, ⟨⟩⟩

/-- The label of an address, with a flag on its kind and its padding cut, is a record; with a
length that is one too long it is none. -/
theorem exists_decode_iff_isRecord_label :
    let head : List UInt8 := [29, 0, 0, 0, 20, 0, 0, 0, 0, 0, 0, 0, 0, 0, 0, 0] ++
      [2, 24, 0, 0, 1, 0, 0, 0]
    IsRecord (head ++ [5, 0, 3, 128, 97]) ∧ ¬IsRecord (head ++ [6, 0, 3, 128, 97]) := by
  intro head
  constructor
  · let message : Message :=
      ⟨⟨29, .newAddress, 0, 0, 0, none⟩, .entity (.address ⟨.inet, 24, 0, 0, 1⟩)
        ((Table.empty 12).put AddressKind.label (.value (.text "a")))⟩
    have hm : decode (head ++ [5, 0, 3, 128, 97]) = .ok message := by decide +kernel
    exact (exists_decode_iff_isRecord _).1.1 ⟨message, hm⟩
  · have h : (decode (head ++ [6, 0, 3, 128, 97])).toOption = none := by decide +kernel
    rw [← (exists_decode_iff_isRecord _).1]
    rintro ⟨message, hm⟩
    rw [hm] at h
    cases h

end Message
end RouteNetlink
