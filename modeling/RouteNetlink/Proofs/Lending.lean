import RouteNetlink.Proofs.Recycling

/-! How many tables a record takes from a pool, and how many the pool has once they are given
back. Tables are lent and given back in an order that only the record decides; what is idle
in the end depends on no more than the most that were out at once. -/
namespace RouteNetlink

/-- A table goes out of a pool, or comes back. -/
inductive Loan where
  | lent (size : Nat)
  | returned
  deriving DecidableEq

namespace Loan

/-- The tables that are out after these loans, where some were out before. -/
def outstanding (out : Nat) : List Loan → Nat
  | [] => out
  | lent _ :: loans => outstanding (out + 1) loans
  | returned :: loans => outstanding (out - 1) loans

/-- The most tables that are out at once. -/
def peak (out : Nat) : List Loan → Nat
  | [] => out
  | lent _ :: loans => max out (peak (out + 1) loans)
  | returned :: loans => max out (peak (out - 1) loans)

/-- Nothing comes back that is not out. -/
def Covered (out : Nat) : List Loan → Prop
  | [] => True
  | lent _ :: loans => Covered (out + 1) loans
  | returned :: loans => 0 < out ∧ Covered (out - 1) loans

def back (n : Nat) : List Loan := List.replicate n returned

variable {out n : Nat} {loans more : List Loan}

theorem outstanding_append (out : Nat) (loans more : List Loan) :
    outstanding out (loans ++ more) = outstanding (outstanding out loans) more := by
  induction loans generalizing out with
  | nil => rfl
  | cons loan loans ih => cases loan <;> exact ih _

theorem covered_append (out : Nat) (loans more : List Loan) :
    Covered out (loans ++ more) ↔ Covered out loans ∧ Covered (outstanding out loans) more := by
  induction loans generalizing out with
  | nil => simp [Covered, outstanding]
  | cons loan loans ih => cases loan <;> simp [Covered, outstanding, ih, and_assoc]

theorem peak_append (out : Nat) (loans more : List Loan) :
    peak out (loans ++ more) = max (peak out loans) (peak (outstanding out loans) more) := by
  induction loans generalizing out with
  | nil => cases more with
    | nil => simp [peak, outstanding]
    | cons loan more => cases loan <;> simp [peak, outstanding]
  | cons loan loans ih => cases loan <;> simp [peak, outstanding, ih, max_assoc]

theorem outstanding_back (out n : Nat) : outstanding out (back n) = out - n := by
  induction n generalizing out with
  | zero => rfl
  | succ n ih =>
    have := ih (out - 1)
    simp only [back, List.replicate_succ, outstanding] at this ⊢
    omega

theorem covered_back (h : n ≤ out) : Covered out (back n) := by
  induction n generalizing out with
  | zero => trivial
  | succ n ih => exact ⟨by omega, ih (by omega)⟩

/-- What was added to the tables that are out comes back. -/
theorem back_added (out n : Nat) :
    Covered (out + n) (back n) ∧ outstanding (out + n) (back n) = out :=
  ⟨covered_back (Nat.le_add_left n out),
    (outstanding_back _ _).trans (Nat.add_sub_cancel out n)⟩

theorem le_peak (out : Nat) (loans : List Loan) : out ≤ peak out loans := by
  cases loans with
  | nil => exact le_refl out
  | cons loan loans => cases loan <;> exact le_max_left _ _

theorem outstanding_le_peak (out : Nat) (loans : List Loan) :
    outstanding out loans ≤ peak out loans := by
  induction loans generalizing out with
  | nil => exact le_refl out
  | cons loan loans ih => cases loan <;> exact (ih _).trans (le_max_right _ _)

theorem peak_back (out n : Nat) : peak out (back n) = out := by
  induction n generalizing out with
  | zero => rfl
  | succ n ih =>
    have := ih (out - 1)
    simp only [back, List.replicate_succ, peak] at this ⊢
    omega

/-- No more tables are out at once while all comes back. -/
theorem peak_append_back (out n : Nat) (loans : List Loan) :
    peak out (loans ++ back n) = peak out loans := by
  rw [peak_append, peak_back]
  exact max_eq_left (outstanding_le_peak out loans)

end Loan

namespace Pool

variable {pool : Pool} {out most : Nat}

def settle (pool : Pool) : Loan → Pool
  | .lent size => (pool.borrow size).2
  | .returned => pool.giveBack

def settleAll (pool : Pool) (loans : List Loan) : Pool := loans.foldl settle pool

theorem settleAll_append (pool : Pool) (loans more : List Loan) :
    pool.settleAll (loans ++ more) = (pool.settleAll loans).settleAll more := List.foldl_append

/-- With so many tables out, and so many the most that ever were in use: all that were in use
are out or idle, but for those that found no room. -/
structure Level (pool : Pool) (out most : Nat) : Prop where
  room : pool.available ≤ pool.capacity
  floor : min pool.capacity most ≤ pool.available + out
  ceiling : pool.available + out ≤ most

theorem Level.lent (h : pool.Level out most) (size : Nat) :
    (pool.borrow size).2.Level (out + 1) (max most (out + 1)) := by
  obtain ⟨hroom, hfloor, hceiling⟩ := h
  unfold borrow available at *
  split
  · rename_i hi
    simp only [hi, List.length_nil] at hroom hfloor hceiling
    constructor <;> simp only [available, hi, List.length_nil] <;> omega
  · rename_i slots idle hi
    simp only [hi, List.length_cons] at hroom hfloor hceiling
    constructor <;> simp only [available] <;> omega

theorem Level.returned (h : pool.Level out most) (ho : 0 < out) :
    pool.giveBack.Level (out - 1) most := by
  obtain ⟨hroom, hfloor, hceiling⟩ := h
  unfold giveBack available at *
  split
  · constructor <;> simp only [available, List.length_cons] <;> omega
  · constructor <;> simp only [available] <;> omega

theorem capacity_settle (pool : Pool) (loan : Loan) :
    (pool.settle loan).capacity = pool.capacity := by
  cases loan with
  | lent size =>
    simp only [settle, borrow]
    split <;> rfl
  | returned =>
    simp only [settle, giveBack]
    split <;> rfl

@[simp] theorem capacity_settleAll (pool : Pool) (loans : List Loan) :
    (pool.settleAll loans).capacity = pool.capacity := by
  induction loans generalizing pool with
  | nil => rfl
  | cons loan loans ih => exact (ih _).trans (capacity_settle pool loan)

theorem Clean.settleAll (h : pool.Clean) (loans : List Loan) : (pool.settleAll loans).Clean := by
  induction loans generalizing pool with
  | nil => exact h
  | cons loan loans ih =>
    apply ih
    cases loan with
    | lent size => exact (h.borrow size).2
    | returned => exact h.giveBack

theorem available_settleAll_le (h : pool.available ≤ pool.capacity) (loans : List Loan) :
    (pool.settleAll loans).available ≤ pool.capacity := by
  induction loans generalizing pool with
  | nil => exact h
  | cons loan loans ih =>
    rw [← capacity_settle pool loan]
    apply ih
    rw [capacity_settle]
    cases loan with
    | lent size =>
      simp only [settle, borrow, available] at *
      split
      · exact h
      · rename_i slots idle hi
        simp only [hi, List.length_cons] at h
        exact (Nat.le_succ _).trans h
    | returned =>
      simp only [settle, giveBack, available] at *
      split
      · rename_i hroom
        exact hroom
      · exact h

/-- Loans of whatever order keep the level. -/
theorem Level.settleAll {loans : List Loan} (h : pool.Level out most)
    (hc : Loan.Covered out loans) :
    (pool.settleAll loans).Level (Loan.outstanding out loans) (max most (Loan.peak out loans)) := by
  induction loans generalizing pool out most with
  | nil => rwa [Loan.peak, max_eq_left (Nat.le_of_add_left_le h.ceiling)]
  | cons loan loans ih =>
    have hout : out ≤ most := Nat.le_of_add_left_le h.ceiling
    cases loan with
    | lent size =>
      have hnext := ih (h.lent size) hc
      have hpeak := Loan.le_peak (out + 1) loans
      rw [max_assoc, max_eq_right hpeak] at hnext
      rwa [Loan.peak, ← max_assoc, max_eq_left hout]
    | returned =>
      have hnext := ih (h.returned hc.1) hc.2
      rwa [Loan.peak, ← max_assoc, max_eq_left hout]

/-- Once all is given back, the pool has the most that was ever in use, as far as there is room. -/
theorem available_of_settled {loans : List Loan} (hroom : pool.available ≤ pool.capacity)
    (hc : Loan.Covered 0 loans) (ho : Loan.outstanding 0 loans = 0) :
    (pool.settleAll loans).available =
      min pool.capacity (max pool.available (Loan.peak 0 loans)) := by
  have hstart : pool.Level 0 pool.available := ⟨hroom, min_le_right _ _, le_refl _⟩
  have hend := hstart.settleAll hc
  rw [ho] at hend
  obtain ⟨hlast, hfloor, hceiling⟩ := hend
  rw [capacity_settleAll] at hlast hfloor
  omega

end Pool

namespace Attribute

mutual

def tables : Attribute → Nat
  | value _ => 0
  | table _ slots => slotTables slots + 1

def slotTables : List (Option Attribute) → Nat
  | [] => 0
  | none :: slots => slotTables slots
  | some a :: slots => tables a + slotTables slots

end

theorem slotTables_empty (size : Nat) : slotTables (Table.empty size) = 0 := by
  unfold Table.empty
  induction size with
  | zero => rfl
  | succ size ih => exact ih

/-- What is stored comes in addition, what it replaces goes. -/
theorem slotTables_put {table : Table} {kind : Nat} (h : kind < table.length) (a : Attribute) :
    slotTables (table.put kind a) + (table.at? kind).elim 0 tables =
      slotTables table + tables a := by
  unfold Table.put Table.at?
  induction table generalizing kind with
  | nil => exact absurd h (Nat.not_lt_zero _)
  | cons slot slots ih =>
    cases kind with
    | zero => cases slot <;> simp [slotTables] <;> omega
    | succ kind =>
      have := ih (Nat.lt_of_succ_lt_succ h)
      cases slot <;> simp [slotTables] at * <;> omega

end Attribute

namespace Held

mutual

/-- How many tables of a pool there are in an attribute. -/
def lent : Held → Nat
  | value _ => 0
  | table _ pooled slots => slotsLent slots + pooled.toNat

def slotsLent : List (Option Held) → Nat
  | [] => 0
  | none :: slots => slotsLent slots
  | some a :: slots => lent a + slotsLent slots

end

def Pooled (a : Held) : Prop := a.lent = a.plain.tables

theorem slotsLent_of_pooled {slots : List (Option Held)} (h : ∀ a, some a ∈ slots → Pooled a) :
    slotsLent slots = Attribute.slotTables (plainSlots slots) := by
  induction slots with
  | nil => rfl
  | cons slot slots ih =>
    have hrest := ih fun a ha => h a (List.mem_cons_of_mem _ ha)
    cases slot with
    | none => exact hrest
    | some a =>
      have ha : a.lent = a.plain.tables := h a List.mem_cons_self
      simp only [slotsLent, plainSlots, Attribute.slotTables, ha, hrest]

mutual

theorem lent_ofPlain : (a : Attribute) → (ofPlain a).lent = 0
  | .value _ => by simp only [ofPlain, lent]
  | .table _ slots => by
    simp only [ofPlain, lent, slotsLent_ofPlainSlots slots, Bool.toNat_false]

theorem slotsLent_ofPlainSlots : (slots : Table) → slotsLent (ofPlainSlots slots) = 0
  | [] => by simp only [ofPlainSlots, slotsLent]
  | none :: slots => by simp only [ofPlainSlots, slotsLent, slotsLent_ofPlainSlots slots]
  | some a :: slots => by
    simp only [ofPlainSlots, slotsLent, lent_ofPlain a, slotsLent_ofPlainSlots slots]

end

end Held

namespace HeldTable

def lent (table : HeldTable) : Nat := Held.slotsLent table.slots + table.pooled.toNat

structure Pooled (table : HeldTable) : Prop where
  own : table.pooled = true
  slot : ∀ a, some a ∈ table.slots → a.Pooled

theorem Pooled.lent {table : HeldTable} (h : table.Pooled) :
    table.lent = Attribute.slotTables table.plain + 1 := by
  rw [HeldTable.lent, Held.slotsLent_of_pooled h.slot, h.own]
  rfl

theorem Pooled.nested {table : HeldTable} (h : table.Pooled) (nest : Nest) :
    (table.nested nest).Pooled := by
  have := h.lent
  rw [HeldTable.lent] at this
  rw [Held.Pooled, HeldTable.nested, Held.lent, this, Held.plain, Attribute.tables]
  rfl

theorem Pooled.new (size : Nat) : Pooled ⟨true, List.replicate size none⟩ :=
  ⟨rfl, fun a ha => by simp at ha⟩

@[simp] theorem length_put (table : HeldTable) (kind : Nat) (a : Held) :
    (table.put kind a).1.slots.length = table.slots.length := by
  unfold put
  split <;> simp

theorem Pooled.put {table : HeldTable} (h : table.Pooled) (kind : Nat) {a : Held}
    (ha : a.Pooled) : (table.put kind a).1.Pooled := by
  unfold HeldTable.put
  split
  · refine ⟨h.own, fun other ho => ?_⟩
    rcases List.mem_or_eq_of_mem_set ho with hm | he
    · exact h.slot other hm
    · exact Option.some.inj he ▸ ha
  · exact h

/-- What is left over when an attribute is stored is what its slot held. -/
theorem Pooled.lent_left {table : HeldTable} (h : table.Pooled) {kind : Nat}
    (hk : kind < table.slots.length) (a : Held) :
    (table.put kind a).2.elim 0 Held.lent =
      (Table.at? table.plain kind).elim 0 Attribute.tables := by
  have hplain : Table.at? table.plain kind = (table.at? kind).map Held.plain := by
    simp only [Table.at?, HeldTable.plain, HeldTable.at?, Held.plainSlots_eq_map,
      List.getElem?_map]
    cases table.slots[kind]? <;> rfl
  have hput : (table.put kind a).2 = table.at? kind := by simp [HeldTable.put, contains, hk]
  rw [hplain, hput]
  cases hat : table.at? kind with
  | none => rfl
  | some other => exact h.slot other (List.mem_of_getElem? (Option.join_eq_some_iff.1 hat))

theorem lent_clone (table : HeldTable) : table.clone.lent = 0 := by
  simp only [clone, HeldTable.lent, Held.slotsLent_ofPlainSlots, Bool.toNat_false]

end HeldTable

namespace Pool

mutual

/-- Dropping an attribute gives back all its tables. -/
theorem release_eq_settleAll (pool : Pool) : (a : Held) →
    pool.release a = pool.settleAll (Loan.back a.lent)
  | .value _ => by simp only [release, Held.lent]; rfl
  | .table _ pooled slots => by
    have hslots := releaseSlots_eq_settleAll pool slots
    cases pooled with
    | false => simpa [release, Held.lent] using hslots
    | true =>
      have hback : Loan.back (Held.slotsLent slots + 1) =
          Loan.back (Held.slotsLent slots) ++ [.returned] := List.replicate_succ'
      simp only [release, Held.lent, if_true, hslots, Bool.toNat_true, hback, settleAll_append]
      rfl

theorem releaseSlots_eq_settleAll (pool : Pool) : (slots : List (Option Held)) →
    pool.releaseSlots slots = pool.settleAll (Loan.back (Held.slotsLent slots))
  | [] => by simp only [releaseSlots, Held.slotsLent]; rfl
  | none :: slots => by
    simpa only [releaseSlots, Held.slotsLent] using releaseSlots_eq_settleAll pool slots
  | some a :: slots => by
    have hback : Loan.back (a.lent + Held.slotsLent slots) =
        Loan.back a.lent ++ Loan.back (Held.slotsLent slots) :=
      List.replicate_append_replicate.symm
    simp only [releaseSlots, Held.slotsLent, hback, settleAll_append,
      release_eq_settleAll pool a, releaseSlots_eq_settleAll _ slots]

end

theorem releaseTable_eq_settleAll (pool : Pool) (table : HeldTable) :
    pool.releaseTable table = pool.settleAll (Loan.back table.lent) := by
  have h := pool.release_eq_settleAll (table.nested .families)
  simpa only [releaseTable, HeldTable.lent, HeldTable.nested, release, Held.lent] using h

theorem releaseLeft_eq_settleAll (pool : Pool) (left? : Option Held) :
    pool.releaseLeft left? = pool.settleAll (Loan.back (left?.elim 0 Held.lent)) := by
  cases left? with
  | none => rfl
  | some a => exact pool.release_eq_settleAll a

end Pool

namespace Table

abbrev Lenders := List (List UInt8 → List Loan)

def itemLoans (lenders : Lenders) (item : RunItem) : List Loan :=
  lenders[item.kind]?.elim [] (· item.payload)

/-- The loans for the attributes of a run, which go into a table one after another. A fault
gives back the table with all in it; an attribute that is replaced is given back once its
successor is there. -/
def fillLoans (label : String) (decoders : Decoders) (lenders : Lenders) :
    Table → List (Except Fault RunItem) → List Loan
  | _, [] => []
  | table, .error _ :: _ => Loan.back (Attribute.slotTables table + 1)
  | table, .ok item :: items =>
    itemLoans lenders item ++
      match decodeItem label decoders item with
      | .error _ => Loan.back (Attribute.slotTables table + 1)
      | .ok a =>
        Loan.back ((table.at? item.kind).elim 0 Attribute.tables) ++
          fillLoans label decoders lenders (table.put item.kind a) items

def runLoans (label : String) (decoders : Decoders) (lenders : Lenders) (bs : List UInt8) :
    List Loan :=
  .lent decoders.length ::
    fillLoans label decoders lenders (Table.empty decoders.length) (RunItem.all bs)

end Table

namespace Format

mutual

def loans : Format → List UInt8 → List Loan
  | plain _ => fun _ => []
  | nested _ label rows => Table.runLoans label (decoders rows) (lenders rows)

def lenders : List (String × Format) → Table.Lenders
  | [] => []
  | (_, format) :: rows => loans format :: lenders rows

end

@[simp] theorem lenders_eq_map (rows : List (String × Format)) :
    lenders rows = rows.map fun row => loans row.2 := by
  induction rows with
  | nil => simp [lenders]
  | cons row rows ih => simp [lenders, ih]

end Format

namespace Table

/-- The tables that come out of decoding a run. -/
def kept : Except Fault Table → Nat
  | .ok table => Attribute.slotTables table + 1
  | .error _ => 0

end Table

namespace Attribute

def kept : Except Fault Attribute → Nat
  | .ok a => a.tables
  | .error _ => 0

theorem kept_map_table (outcome : Except Fault Table) (nest : Nest) :
    kept (outcome.map (.table nest)) = Table.kept outcome := by
  cases outcome with
  | error fault => rfl
  | ok table => simp only [Outcome.ok_map, kept, Table.kept, tables]

end Attribute

namespace Format

/-- A payload takes its loans from any clean pool, hands on tables of the pool alone, and gives
back all that it does not hand on. -/
structure Lends (format : Format) : Prop where
  settles : ∀ pool : Pool, pool.Clean → ∀ bs,
    (format.hold pool bs).2 = pool.settleAll (format.loans bs)
  pooled : ∀ pool : Pool, pool.Clean → ∀ bs a, (format.hold pool bs).1 = .ok a → a.Pooled
  keeps : ∀ bs out, Loan.Covered out (format.loans bs) ∧
    Loan.outstanding out (format.loans bs) = out + Attribute.kept (format.decode bs)

variable (label : String) {rows : List (String × Format)} {pool : Pool}

theorem keeps_item (h : ∀ row ∈ rows, row.2.Lends) (item : RunItem) (out : Nat) :
    Loan.Covered out (Table.itemLoans (lenders rows) item) ∧
      Loan.outstanding out (Table.itemLoans (lenders rows) item) =
        out + Attribute.kept (Table.decodeItem label (decoders rows) item) := by
  unfold Table.itemLoans Table.decodeItem
  rw [lenders_eq_map, decoders_eq_map, List.getElem?_map, List.getElem?_map]
  cases hrow : rows[item.kind]? with
  | none => exact ⟨trivial, rfl⟩
  | some row => exact (h row (List.mem_of_getElem? hrow)).keeps item.payload out

theorem settles_item (h : ∀ row ∈ rows, row.2.Lends) (hp : pool.Clean) (item : RunItem) :
    (HeldTable.decodeItem label (holders rows) pool item).2 =
        pool.settleAll (Table.itemLoans (lenders rows) item) ∧
      ∀ a, (HeldTable.decodeItem label (holders rows) pool item).1 = .ok a →
        a.Pooled ∧ item.kind < rows.length := by
  unfold Table.itemLoans HeldTable.decodeItem
  rw [lenders_eq_map, holders_eq_map, List.getElem?_map, List.getElem?_map]
  cases hrow : rows[item.kind]? with
  | none => exact ⟨rfl, by rintro _ ⟨⟩⟩
  | some row =>
    have hlends := h row (List.mem_of_getElem? hrow)
    refine ⟨hlends.settles pool hp item.payload, ?_⟩
    intro a ha
    exact ⟨hlends.pooled pool hp item.payload a ha, (List.getElem?_eq_some_iff.1 hrow).1⟩

/-- Of the loans for a run, all come back but for those of the table that comes out of it. -/
theorem keeps_fill (h : ∀ row ∈ rows, row.2.Lends) {table : Table}
    (hl : table.length = rows.length) (items : List (Except Fault RunItem)) (out : Nat) :
    Loan.Covered (out + (Attribute.slotTables table + 1))
        (Table.fillLoans label (decoders rows) (lenders rows) table items) ∧
      Loan.outstanding (out + (Attribute.slotTables table + 1))
          (Table.fillLoans label (decoders rows) (lenders rows) table items) =
        out + Table.kept (items.foldlM (Table.decodeInto label (decoders rows)) table) := by
  induction items generalizing table with
  | nil => exact ⟨trivial, rfl⟩
  | cons item? items ih =>
    cases item? with
    | error fault => exact Loan.back_added out _
    | ok item =>
      obtain ⟨hcovered, hout⟩ := keeps_item label h item
        (out + (Attribute.slotTables table + 1))
      rw [Table.fillLoans, List.foldlM_cons, Table.decodeInto, Outcome.ok_bind,
        Loan.covered_append, Loan.outstanding_append, hout]
      cases ha : Table.decodeItem label (decoders rows) item with
      | error fault =>
        obtain ⟨hback, hlast⟩ := Loan.back_added out (Attribute.slotTables table + 1)
        exact ⟨⟨hcovered, hback⟩, hlast⟩
      | ok a =>
        obtain ⟨decoder, hd, -⟩ := Table.decodeItem_eq_ok_iff.1 ha
        have hk : item.kind < table.length := by
          have := (List.getElem?_eq_some_iff.1 hd).1
          rwa [decoders_eq_map, List.length_map, ← hl] at this
        -- what is in the table now, with what was replaced, is what was there and the new one
        have hput := Attribute.slotTables_put hk a
        have hnext : (table.put item.kind a).length = rows.length := by simpa using hl
        obtain ⟨hrest, hlast⟩ := ih hnext
        have hsum : out + (Attribute.slotTables table + 1) + Attribute.kept (.ok a) -
            (table.at? item.kind).elim 0 Attribute.tables =
              out + (Attribute.slotTables (table.put item.kind a) + 1) := by
          simp only [Attribute.kept]
          omega
        simp only [Loan.covered_append, Loan.outstanding_append, Loan.outstanding_back, hsum]
        refine ⟨⟨hcovered, Loan.covered_back ?_, hrest⟩, hlast⟩
        simp only [Attribute.kept]
        omega

theorem keeps_run (h : ∀ row ∈ rows, row.2.Lends) (bs : List UInt8) (out : Nat) :
    Loan.Covered out (Table.runLoans label (decoders rows) (lenders rows) bs) ∧
      Loan.outstanding out (Table.runLoans label (decoders rows) (lenders rows) bs) =
        out + Table.kept (Table.decodeRun label (decoders rows) bs) := by
  have hl : (Table.empty (decoders rows).length).length = rows.length := by simp
  have hfill := keeps_fill label h hl (RunItem.all bs) out
  rwa [Attribute.slotTables_empty] at hfill

/-- The same for the tables themselves: a run is read into tables of the pool, and each is given
back when it is dropped. -/
theorem settles_fill (h : ∀ row ∈ rows, row.2.Lends) (hp : pool.Clean) {table : HeldTable}
    (ht : table.Pooled) (hl : table.slots.length = rows.length)
    (items : List (Except Fault RunItem)) :
    (HeldTable.fill label (holders rows) pool table items).2 =
        pool.settleAll (Table.fillLoans label (decoders rows) (lenders rows) table.plain items) ∧
      ∀ filled, (HeldTable.fill label (holders rows) pool table items).1 = .ok filled →
        filled.Pooled := by
  induction items generalizing pool table with
  | nil =>
    refine ⟨rfl, ?_⟩
    rintro _ ⟨⟩
    exact ht
  | cons item? items ih =>
    have hback : ∀ pool : Pool, pool.releaseTable table =
        pool.settleAll (Loan.back (Attribute.slotTables table.plain + 1)) := by
      intro pool
      rw [pool.releaseTable_eq_settleAll, ht.lent]
    cases item? with
    | error fault => exact ⟨hback pool, by rintro _ ⟨⟩⟩
    | ok item =>
      have hagree := agree_holders fun row (_ : row ∈ rows) => row.2.mirrors_hold
      obtain ⟨hsame, hclean⟩ := hagree.decodeItem label hp item
      obtain ⟨hsettles, hpooled⟩ := settles_item label h hp item
      rw [HeldTable.fill, Table.fillLoans, Pool.settleAll_append, ← hsettles, ← hsame]
      revert hclean hpooled
      cases HeldTable.decodeItem label (holders rows) pool item with
      | mk outcome after =>
        intro hclean hpooled
        cases outcome with
        | error fault => exact ⟨hback after, by rintro _ ⟨⟩⟩
        | ok a =>
          obtain ⟨ha, hk⟩ := hpooled a rfl
          have hleft : after.releaseLeft (table.put item.kind a).2 = after.settleAll
              (Loan.back ((Table.at? table.plain item.kind).elim 0 Attribute.tables)) := by
            rw [after.releaseLeft_eq_settleAll, ht.lent_left (by omega) a]
          obtain ⟨hrest, hfilled⟩ := ih (hclean.releaseLeft (table.put item.kind a).2)
            (ht.put item.kind ha) (by simpa using hl)
          refine ⟨hrest.trans ?_, hfilled⟩
          rw [HeldTable.plain_put, hleft, ← Pool.settleAll_append]
          rfl

theorem settles_run (h : ∀ row ∈ rows, row.2.Lends) (hp : pool.Clean) (bs : List UInt8) :
    (HeldTable.decodeRun label (holders rows) pool bs).2 =
        pool.settleAll (Table.runLoans label (decoders rows) (lenders rows) bs) ∧
      ∀ table, (HeldTable.decodeRun label (holders rows) pool bs).1 = .ok table →
        table.Pooled := by
  obtain ⟨hlent, hclean⟩ := hp.borrow (holders rows).length
  have hlength : (holders rows).length = (decoders rows).length := by simp
  have hempty : HeldTable.plain ⟨true, List.replicate (holders rows).length none⟩ =
      Table.empty (decoders rows).length := by
    simp [HeldTable.plain, Held.plainSlots_eq_map, Table.empty]
  have hfill := settles_fill label h hclean
    (HeldTable.Pooled.new (holders rows).length) (by simp) (RunItem.all bs)
  rw [hempty] at hfill
  unfold HeldTable.decodeRun Table.runLoans
  simp only [hlent]
  rw [hlength] at hfill ⊢
  exact hfill

theorem lends (format : Format) : format.Lends := by
  induction format with
  | plain form =>
    constructor
    · intro pool hp bs
      rw [hold, loans]
      rfl
    · intro pool hp bs a ha
      rw [hold] at ha
      obtain ⟨v, -, rfl⟩ := Outcome.map_eq_ok_iff.1 ha
      simp only [Held.Pooled, Held.lent, Held.plain, Attribute.tables]
    · intro bs out
      have hkept : Attribute.kept ((form.decode bs).map .value) = 0 := by
        cases form.decode bs with
        | error fault => rfl
        | ok v => simp only [Outcome.ok_map, Attribute.kept, Attribute.tables]
      rw [loans, decode, hkept]
      exact ⟨trivial, rfl⟩
  | nested nest label rows ih =>
    constructor
    · intro pool hp bs
      rw [hold, loans]
      exact (settles_run label ih hp bs).1
    · intro pool hp bs a ha
      rw [hold] at ha
      obtain ⟨table, ht, rfl⟩ := Outcome.map_eq_ok_iff.1 ha
      exact ((settles_run label ih hp bs).2 table ht).nested nest
    · intro bs out
      rw [loans, decode, Attribute.kept_map_table]
      exact keeps_run label ih bs out

end Format

def Message.loans (record : List UInt8) : List Loan :=
  match Opened.ofRecord record with
  | .ok (.attributed _ e run) =>
    Table.runLoans e.schema.label (Format.decoders e.schema.rows)
      (Format.lenders e.schema.rows) run
  | _ => []

namespace HeldMessage

def lent : HeldMessage → Nat
  | bare _ => 0
  | entity _ _ attributes => attributes.lent

theorem release_eq_settleAll (message : HeldMessage) (pool : Pool) :
    message.release pool = pool.settleAll (Loan.back message.lent) := by
  cases message with
  | bare message => rfl
  | entity header e attributes => exact pool.releaseTable_eq_settleAll attributes

theorem lent_clone (message : HeldMessage) : message.clone.lent = 0 := by
  cases message with
  | bare message => rfl
  | entity header e attributes => exact attributes.lent_clone

def discard (decoded : Except Fault HeldMessage × Pool) : Pool :=
  decoded.1.toOption.elim decoded.2 (·.release decoded.2)

def kept : Except Fault HeldMessage → Nat
  | .ok message => message.lent
  | .error _ => 0

theorem discard_eq_settleAll (decoded : Except Fault HeldMessage × Pool) :
    discard decoded = decoded.2.settleAll (Loan.back (kept decoded.1)) := by
  obtain ⟨outcome, pool⟩ := decoded
  cases outcome with
  | error fault => rfl
  | ok message => exact message.release_eq_settleAll pool

variable {pool : Pool}

/-- A decode takes the loans of its record from any clean pool, and what it does not give back
is in the message. -/
theorem settles_decode (hp : pool.Clean) (record : List UInt8) :
    (decode pool record).2 = pool.settleAll (Message.loans record) ∧
      Loan.Covered 0 (Message.loans record) ∧
      Loan.outstanding 0 (Message.loans record) = kept (decode pool record).1 := by
  unfold decode Message.loans
  cases Opened.ofRecord record with
  | error fault => exact ⟨rfl, trivial, rfl⟩
  | ok opened =>
    cases opened with
    | complete message => exact ⟨rfl, trivial, rfl⟩
    | attributed header e run =>
      have hlends := fun row (_ : row ∈ e.schema.rows) => row.2.lends
      have hagree := Format.agree_holders fun row (_ : row ∈ e.schema.rows) =>
        row.2.mirrors_hold
      have hsame := (hagree.decodeRun e.schema.label hp run).same
      obtain ⟨hsettles, hpooled⟩ := Format.settles_run e.schema.label hlends hp run
      obtain ⟨hcovered, hout⟩ := Format.keeps_run e.schema.label hlends run 0
      refine ⟨hsettles, hcovered, hout.trans ?_⟩
      dsimp only
      rw [← hsame]
      revert hpooled
      cases (HeldTable.decodeRun e.schema.label (Format.holders e.schema.rows) pool run).1 with
      | error fault => exact fun _ => rfl
      | ok table =>
        intro hpooled
        exact (Nat.zero_add _).trans (hpooled table rfl).lent.symm

end HeldMessage

namespace Holding

def lent : Holding → Nat
  | table held => held.lent
  | loose held => held.lent
  | message held => held.lent

theorem release_eq_settleAll (holding : Holding) (pool : Pool) :
    holding.release pool = pool.settleAll (Loan.back holding.lent) := by
  cases holding with
  | table held => exact pool.releaseTable_eq_settleAll held
  | loose held => exact pool.release_eq_settleAll held
  | message held => exact held.release_eq_settleAll pool

theorem lent_clone (holding : Holding) : holding.clone.lent = 0 := by
  cases holding with
  | table held => exact held.lent_clone
  | loose held => exact Held.lent_ofPlain held.plain
  | message held => exact held.lent_clone

/-- Dropping what holds no table of a pool leaves every pool alone. -/
theorem release_of_unlent {holding : Holding} (h : holding.lent = 0) (pool : Pool) :
    holding.release pool = pool := by
  rw [release_eq_settleAll, h]
  rfl

end Holding

namespace Holdings

/-- Making copies of what is held, and dropping any of it. -/
def Action.isCopying : Action → Bool
  | .clone _ _ => true
  | .drop _ => true
  | _ => false

variable {holdings : Holdings} {name : String} {settled : Pool}

/-- Only under one name there may be tables of the pool, and giving these back settles it. -/
structure Copied (name : String) (settled : Pool) (holdings : Holdings) : Prop where
  unlent : ∀ other holding, other ≠ name → holdings.held.lookup other = some holding →
    holding.lent = 0
  settled : (holdings.drop name).pool = settled
  clean : holdings.pool.Clean
  room : holdings.pool.available ≤ holdings.pool.capacity

theorem drop_eq_settleAll (holdings : Holdings) (name : String) :
    ∃ n, (holdings.drop name).pool = holdings.pool.settleAll (Loan.back n) := by
  unfold drop
  cases holdings.held.lookup name with
  | none => exact ⟨0, rfl⟩
  | some holding => exact ⟨_, holding.release_eq_settleAll holdings.pool⟩

theorem capacity_drop (holdings : Holdings) (name : String) :
    (holdings.drop name).pool.capacity = holdings.pool.capacity := by
  obtain ⟨n, hn⟩ := drop_eq_settleAll holdings name
  rw [hn, Pool.capacity_settleAll]

theorem available_drop_le (h : holdings.pool.available ≤ holdings.pool.capacity)
    (name : String) : (holdings.drop name).pool.available ≤ (holdings.drop name).pool.capacity := by
  obtain ⟨n, hn⟩ := drop_eq_settleAll holdings name
  rw [hn, Pool.capacity_settleAll]
  exact Pool.available_settleAll_le h _

/-- Dropping what holds no table of the pool leaves the pool alone. -/
theorem pool_drop_of_unlent
    (h : ∀ holding, holdings.held.lookup name = some holding → holding.lent = 0) :
    (holdings.drop name).pool = holdings.pool := by
  unfold drop
  cases hl : holdings.held.lookup name with
  | none => rfl
  | some holding => exact Holding.release_of_unlent (h holding hl) holdings.pool

theorem lookup_drop (holdings : Holdings) (name : String) :
    (holdings.drop name).held.lookup name = none := by simp [drop]

theorem lookup_of_drop {other : String} {holding : Holding}
    (h : (holdings.drop name).held.lookup other = some holding) :
    other ≠ name ∧ holdings.held.lookup other = some holding := by
  simp only [drop, Named.lookup_forget] at h
  split at h
  · cases h
  · rename_i hne
    exact ⟨hne, h⟩

theorem Copied.capacity (h : Copied name settled holdings) :
    holdings.pool.capacity = settled.capacity := by
  rw [← h.settled, capacity_drop]

theorem Copied.drop (h : Copied name settled holdings) (other : String) :
    Copied name settled (holdings.drop other) := by
  constructor
  · intro third holding hne hl
    exact h.unlent third holding hne (lookup_of_drop hl).2
  · by_cases he : other = name
    · subst he
      rw [pool_drop_of_unlent]
      · exact h.settled
      · intro holding hl
        rw [lookup_drop] at hl
        cases hl
    · have hpool : (holdings.drop other).pool = holdings.pool :=
        pool_drop_of_unlent fun holding hl => h.unlent other holding he hl
      have hsettled := h.settled
      simp only [Holdings.drop, Named.lookup_forget, if_neg (Ne.symm he)] at hpool hsettled ⊢
      rwa [hpool]
  · exact clean_drop h.clean other
  · exact available_drop_le h.room other

theorem Copied.hold (h : Copied name settled holdings) (other : String) {holding : Holding}
    (hu : holding.lent = 0) : Copied name settled (holdings.hold other holding) := by
  have hdropped := h.drop other
  constructor
  · intro third found hne hl
    simp only [Holdings.hold, Named.lookup_keep] at hl
    split at hl
    · exact Option.some.inj hl ▸ hu
    · exact hdropped.unlent third found hne hl
  · by_cases he : name = other
    · subst he
      have hsettled := h.settled
      simp only [Holdings.hold, Holdings.drop, Named.lookup_keep, if_true] at hsettled ⊢
      rw [hsettled]
      exact Holding.release_of_unlent hu settled
    · have hsettled := hdropped.settled
      simp only [Holdings.hold, Holdings.drop, Named.lookup_keep, if_neg he] at hsettled ⊢
      exact hsettled
  · exact hdropped.clean
  · exact hdropped.room

theorem Copied.step (h : Copied name settled holdings) {action : Action}
    (ha : action.isCopying = true) : Copied name settled (holdings.step action) := by
  cases action with
  | drop other => exact h.drop other
  | clone other source =>
    simp only [Holdings.step]
    cases holdings.held.lookup source with
    | none => exact h
    | some holding => exact h.hold other holding.lent_clone
  | _ => cases ha

/-- Whatever copies are made and dropped, giving back what the name has still settles the pool. -/
theorem Copied.run {actions : List Action} (h : Copied name settled holdings)
    (ha : ∀ action ∈ actions, action.isCopying = true) :
    Copied name settled (actions.foldl Holdings.step holdings) := by
  induction actions generalizing holdings with
  | nil => exact h
  | cons action actions ih =>
    apply ih
    · exact h.step (ha action List.mem_cons_self)
    · intro other ho
      exact ha other (List.mem_cons_of_mem _ ho)

def Unlent (holdings : Holdings) : Prop :=
  ∀ name holding, holdings.held.lookup name = some holding → holding.lent = 0

theorem Copied.unlent_drop (h : Copied name settled holdings) : (holdings.drop name).Unlent := by
  intro other holding hl
  obtain ⟨hne, hl⟩ := lookup_of_drop hl
  exact h.unlent other holding hne hl

theorem Unlent.drop (h : holdings.Unlent) (name : String) : (holdings.drop name).Unlent := by
  intro other holding hl
  exact h other holding (lookup_of_drop hl).2

theorem Unlent.step (h : holdings.Unlent) {action : Action} (ha : action.isCopying = true) :
    (holdings.step action).pool = holdings.pool ∧ (holdings.step action).Unlent := by
  cases action with
  | drop other => exact ⟨pool_drop_of_unlent (h other), h.drop other⟩
  | clone other source =>
    simp only [Holdings.step]
    cases holdings.held.lookup source with
    | none => exact ⟨rfl, h⟩
    | some holding =>
      refine ⟨pool_drop_of_unlent (h other), ?_⟩
      intro third found hl
      simp only [Option.elim, Holdings.hold, Named.lookup_keep] at hl
      split at hl
      · exact Option.some.inj hl ▸ holding.lent_clone
      · exact h.drop other third found hl
  | _ => cases ha

/-- Among copies alone the pool stays as it is. -/
theorem Unlent.run {actions : List Action} (h : holdings.Unlent)
    (ha : ∀ action ∈ actions, action.isCopying = true) :
    (actions.foldl Holdings.step holdings).pool = holdings.pool := by
  induction actions generalizing holdings with
  | nil => rfl
  | cons action actions ih =>
    obtain ⟨hpool, hunlent⟩ := h.step (ha action List.mem_cons_self)
    have hrest := ih hunlent fun other ho => ha other (List.mem_cons_of_mem _ ho)
    exact hrest.trans hpool

theorem Copied.run_dropped {actions : List Action} (h : Copied name settled holdings)
    (ha : ∀ action ∈ actions, action.isCopying = true) (hd : .drop name ∈ actions) :
    (actions.foldl Holdings.step holdings).pool = settled := by
  obtain ⟨before, after, rfl⟩ := List.append_of_mem hd
  simp only [List.forall_mem_append, List.forall_mem_cons] at ha
  obtain ⟨hpast, -, hafter⟩ := ha
  have hbefore := h.run hpast
  rw [List.foldl_append, List.foldl_cons]
  exact (hbefore.unlent_drop.run hafter).trans hbefore.settled

variable {pool : Pool}

/-- A record that was read beside a pool is all that holds tables of it. -/
theorem copied_decode (hclean : pool.Clean) (hroom : pool.available ≤ pool.capacity)
    (name : String) (record : List UInt8) :
    Copied name (HeldMessage.discard (HeldMessage.decode pool record))
      (step ⟨pool, []⟩ (.decode name record)) := by
  have hdecoded := (HeldMessage.mirrors_decode hclean record).clean
  obtain ⟨hsettles, -, -⟩ := HeldMessage.settles_decode hclean record
  have hleft : (HeldMessage.decode pool record).2.available ≤
      (HeldMessage.decode pool record).2.capacity := by
    rw [hsettles, Pool.capacity_settleAll]
    exact Pool.available_settleAll_le hroom _
  unfold HeldMessage.discard
  simp only [step]
  revert hdecoded hleft
  cases HeldMessage.decode pool record with
  | mk outcome after =>
    intro hdecoded hleft
    cases outcome with
    | error fault => exact ⟨by simp, rfl, hdecoded, hleft⟩
    | ok message =>
      refine ⟨?_, ?_, hdecoded, hleft⟩
      · intro other holding hne hl
        simp [hold, Named.lookup_keep, hne, Holdings.drop] at hl
      · simp [hold, Holdings.drop, Named.lookup_keep, Except.toOption, Holding.release]

/-- Of a clean pool nothing is lost and nothing is added past its room: from the loans of a
record on, through all that comes back, it never has more tables than that. When what was
decoded is dropped, so many are idle as there were before, or as were out at once where these
are more, as far as there is room; and no copy changes that, whenever it is made or dropped. -/
theorem decode_settles (hclean : pool.Clean) (hroom : pool.available ≤ pool.capacity)
    (record : List UInt8) :
    let loans := Message.loans record
    let decoded := HeldMessage.decode pool record
    let returns := Loan.back (HeldMessage.kept decoded.1)
    let settled := min pool.capacity (max pool.available (Loan.peak 0 loans))
    (decoded.2 = pool.settleAll loans ∧
        HeldMessage.discard decoded = pool.settleAll (loans ++ returns) ∧
        Loan.Covered 0 (loans ++ returns) ∧
        ∀ n, (pool.settleAll ((loans ++ returns).take n)).Clean ∧
          (pool.settleAll ((loans ++ returns).take n)).available ≤ pool.capacity) ∧
      ((HeldMessage.discard decoded).available = settled ∧
        (HeldMessage.discard decoded).Clean) ∧
      ∀ (name : String) (actions : List Action),
        (∀ action ∈ actions, action.isCopying = true) →
        let last := actions.foldl step (step ⟨pool, []⟩ (.decode name record))
        last.pool.Clean ∧ last.pool.available ≤ pool.capacity ∧
          (last.drop name).pool.available = settled ∧
          (.drop name ∈ actions → last.pool.available = settled) := by
  intro loans decoded returns settled
  obtain ⟨hsettles, hcovered, hout⟩ := HeldMessage.settles_decode hclean record
  have hdiscard : HeldMessage.discard decoded = pool.settleAll (loans ++ returns) := by
    rw [HeldMessage.discard_eq_settleAll, hsettles, Pool.settleAll_append]
  obtain ⟨hback, hlast⟩ : Loan.Covered (Loan.outstanding 0 loans) returns ∧
      Loan.outstanding (Loan.outstanding 0 loans) returns = 0 := by
    rw [show Loan.outstanding 0 loans = 0 + HeldMessage.kept decoded.1 from
      hout.trans (Nat.zero_add _).symm]
    exact Loan.back_added 0 _
  have hall : Loan.Covered 0 (loans ++ returns) := (Loan.covered_append ..).2 ⟨hcovered, hback⟩
  have hnone : Loan.outstanding 0 (loans ++ returns) = 0 := by
    rw [Loan.outstanding_append, hlast]
  have havailable : (HeldMessage.discard decoded).available = settled := by
    rw [hdiscard, Pool.available_of_settled hroom hall hnone, Loan.peak_append_back]
  refine ⟨⟨hsettles, hdiscard, hall, ?_⟩, ⟨havailable, ?_⟩, ?_⟩
  · intro n
    exact ⟨hclean.settleAll _, Pool.available_settleAll_le hroom _⟩
  · rw [hdiscard]
    exact hclean.settleAll _
  · intro name actions hactions last
    have hstart := copied_decode hclean hroom name record
    have hrun := hstart.run hactions
    have hcapacity : last.pool.capacity = pool.capacity := by
      rw [hrun.capacity, hdiscard, Pool.capacity_settleAll]
    refine ⟨hrun.clean, hcapacity ▸ hrun.room, ?_, ?_⟩
    · rw [hrun.settled, havailable]
    · intro hdropped
      rw [hstart.run_dropped hactions hdropped, havailable]

/-- A link whose addresses of a family come twice needs a fifth table for them, more than its
pool has room for. -/
theorem decode_settles_repeatedFamily :
    let pool : Pool := ⟨4, [[]]⟩
    let record : List UInt8 := [48, 0, 0, 0, 16, 0, 0, 0, 7, 0, 0, 0, 9, 0, 0, 0] ++
      [0, 0, 1, 0, 2, 0, 0, 0, 0, 0, 0, 0, 0, 0, 0, 0] ++
      [16, 0, 26, 0] ++ [4, 0, 2, 0] ++ [4, 0, 10, 0] ++ [4, 0, 10, 0]
    let first := step ⟨pool, []⟩ (.decode "link" record)
    pool.Clean ∧ pool.available = 1 ∧ Loan.peak 0 (Message.loans record) = 5 ∧
      (HeldMessage.discard (HeldMessage.decode pool record)).available = 4 ∧
      ([.clone "copy" "link", .drop "link", .drop "copy"].foldl step first).pool.available = 4 := by
  intro pool record first
  have hclean : pool.Clean := by
    intro slots hs
    obtain rfl : slots = [] := by simpa [pool] using hs
    exact fun slot hslot => absurd hslot List.not_mem_nil
  have hpeak : Loan.peak 0 (Message.loans record) = 5 := by decide +kernel
  obtain ⟨-, ⟨havailable, -⟩, hcopies⟩ := decode_settles hclean (by decide) record
  obtain ⟨-, -, -, hdropped⟩ := hcopies "link"
    [.clone "copy" "link", .drop "link", .drop "copy"] (by simp [Action.isCopying])
  rw [hpeak] at havailable hdropped
  exact ⟨hclean, rfl, hpeak, havailable, hdropped (by simp)⟩

end Holdings
end RouteNetlink
