import RouteNetlink.Attribute.Basic

/-! Tables that remember where their slots came from: from a pool, which gets them back
when the table is dropped, or from nowhere. What a table says does not depend on it. -/
namespace RouteNetlink

inductive Held where
  | value (v : Value)
  | table (nest : Nest) (pooled : Bool) (slots : List (Option Held))

/-- A table of its own, not inside an attribute. -/
structure HeldTable where
  pooled : Bool
  slots : List (Option Held)

namespace Held

mutual

def plain : Held → Attribute
  | value v => .value v
  | table nest _ slots => .table nest (plainSlots slots)

def plainSlots : List (Option Held) → Table
  | [] => []
  | none :: slots => none :: plainSlots slots
  | some a :: slots => some (plain a) :: plainSlots slots

end

mutual

def ofPlain : Attribute → Held
  | .value v => value v
  | .table nest slots => table nest false (ofPlainSlots slots)

def ofPlainSlots : Table → List (Option Held)
  | [] => []
  | none :: slots => none :: ofPlainSlots slots
  | some a :: slots => some (ofPlain a) :: ofPlainSlots slots

end

theorem plainSlots_eq_map (slots : List (Option Held)) :
    plainSlots slots = slots.map (Option.map plain) := by
  induction slots with
  | nil => simp [plainSlots]
  | cons slot slots ih => cases slot <;> simp [plainSlots, ih]

mutual

@[simp] theorem plain_ofPlain : (a : Attribute) → plain (ofPlain a) = a
  | .value _ => by simp [ofPlain, plain]
  | .table _ slots => by simp [ofPlain, plain, plainSlots_ofPlainSlots slots]

@[simp] theorem plainSlots_ofPlainSlots : (slots : Table) →
    plainSlots (ofPlainSlots slots) = slots
  | [] => by simp [ofPlainSlots, plainSlots]
  | none :: slots => by simp [ofPlainSlots, plainSlots, plainSlots_ofPlainSlots slots]
  | some a :: slots => by
    simp [ofPlainSlots, plainSlots, plain_ofPlain a, plainSlots_ofPlainSlots slots]

end

end Held

namespace HeldTable

def plain (table : HeldTable) : Table := Held.plainSlots table.slots

/-- A copy, which no pool stands behind. -/
def clone (table : HeldTable) : HeldTable := ⟨false, Held.ofPlainSlots table.plain⟩

def new (slots : Nat) : HeldTable := ⟨false, List.replicate slots none⟩

def at? (table : HeldTable) (kind : Nat) : Option Held := table.slots[kind]?.join

def contains (table : HeldTable) (kind : Nat) : Bool := kind < table.slots.length

def nested (table : HeldTable) (nest : Nest) : Held := .table nest table.pooled table.slots

/-- Stores an attribute; what its slot held is left over, or, outside the table, the
attribute itself. -/
def put (table : HeldTable) (kind : Nat) (a : Held) : HeldTable × Option Held :=
  if table.contains kind then
    ({ table with slots := table.slots.set kind (some a) }, table.at? kind)
  else (table, some a)

def take (table : HeldTable) (kind : Nat) : HeldTable × Option Held :=
  ({ table with slots := table.slots.set kind none }, table.at? kind)

/-- Overwrites what a slot holds; an empty slot stays empty, and leaves over the attribute
that was to be stored. -/
def update (table : HeldTable) (kind : Nat) (a : Held) : HeldTable × Option Held :=
  match table.at? kind with
  | some _ => table.put kind a
  | none => (table, some a)

@[simp] theorem plain_clone (table : HeldTable) : table.clone.plain = table.plain := by
  simp [clone, plain]

@[simp] theorem plain_new (slots : Nat) : (new slots).plain = Table.empty slots := by
  simp [new, plain, Held.plainSlots_eq_map, Table.empty]

theorem plain_put (table : HeldTable) (kind : Nat) (a : Held) :
    (table.put kind a).1.plain = table.plain.put kind a.plain := by
  by_cases h : kind < table.slots.length
  · simp [put, contains, plain, Table.put, Held.plainSlots_eq_map, h, List.map_set]
  · rw [Table.put, List.set_eq_of_length_le (by simpa [plain, Held.plainSlots_eq_map] using h)]
    simp [put, contains, h]

end HeldTable
end RouteNetlink
