import RouteNetlink.Attribute.Value

/-! Attributes, and the tables that keep them by kind. A table has a fixed number of
slots; a kind outside it has no place there. -/
namespace RouteNetlink

/-- What the slots of a nested table are numbered by. -/
inductive Nest where
  | families
  | inet
  | inet6
  | linkInfo
  deriving DecidableEq

inductive Attribute where
  | value (v : Value)
  | table (nest : Nest) (slots : List (Option Attribute))

/-- Slot `k` holds the attribute of kind `k`, if there is one. -/
abbrev Table := List (Option Attribute)

namespace Attribute

mutual

def same : Attribute → Attribute → Bool
  | value a, value b => a = b
  | table n s, table m t => n = m && sameSlots s t
  | _, _ => false

def sameSlots : List (Option Attribute) → List (Option Attribute) → Bool
  | [], [] => true
  | none :: s, none :: t => sameSlots s t
  | some a :: s, some b :: t => same a b && sameSlots s t
  | _, _ => false

end

mutual

theorem same_iff : (a b : Attribute) → (same a b = true ↔ a = b)
  | value a, value b => by simp [same]
  | table n s, table m t => by simp [same, sameSlots_iff s t]
  | value _, table _ _ => by simp [same]
  | table _ _, value _ => by simp [same]

theorem sameSlots_iff : (s t : List (Option Attribute)) → (sameSlots s t = true ↔ s = t)
  | [], [] => by simp [sameSlots]
  | none :: s, none :: t => by simp [sameSlots, sameSlots_iff s t]
  | some a :: s, some b :: t => by simp [sameSlots, same_iff a b, sameSlots_iff s t]
  | [], _ :: _ => by simp [sameSlots]
  | none :: _, [] => by simp [sameSlots]
  | some _ :: _, [] => by simp [sameSlots]
  | none :: _, some _ :: _ => by simp [sameSlots]
  | some _ :: _, none :: _ => by simp [sameSlots]

end

instance : DecidableEq Attribute := fun a b =>
  decidable_of_iff (same a b = true) (same_iff a b)

def asU8? : Attribute → Option UInt8
  | value (.u8 n) => some n
  | _ => none

def asU16? : Attribute → Option UInt16
  | value (.u16 n) => some n
  | _ => none

def asU32? : Attribute → Option UInt32
  | value (.u32 n) => some n
  | _ => none

def asI32? : Attribute → Option Int32
  | value (.i32 n) => some n
  | _ => none

def asText? : Attribute → Option String
  | value (.text s) => some s
  | _ => none

def asIp? : Attribute → Option Ip
  | value (.ip4 address) => some (.v4 address)
  | value (.ip6 address) => some (.v6 address)
  | _ => none

def asEthernet? : Attribute → Option Ethernet
  | value (.ethernet address) => some address
  | _ => none

def asTable? : Attribute → Option (Nest × Table)
  | table nest slots => some (nest, slots)
  | _ => none

end Attribute

namespace Table

def empty (slots : Nat) : Table := List.replicate slots none

def at? (table : Table) (kind : Nat) : Option Attribute := table[kind]?.join

/-- Stores an attribute over what its slot held; a kind outside the table is dropped. -/
def put (table : Table) (kind : Nat) (a : Attribute) : Table := table.set kind (some a)

def present (table : Table) : List (Nat × Attribute) :=
  table.zipIdx.filterMap fun (slot, kind) => slot.map fun a => (kind, a)

def isVacant (table : Table) : Bool := table.all Option.isNone

@[simp] theorem length_empty (slots : Nat) : (empty slots).length = slots := by simp [empty]

@[simp] theorem length_put (table : Table) (kind : Nat) (a : Attribute) :
    (put table kind a).length = table.length := by simp [put]

@[simp] theorem at?_empty (slots kind : Nat) : at? (empty slots) kind = none := by
  simp only [at?, empty, List.getElem?_replicate]
  split <;> rfl

theorem at?_put (table : Table) (kind other : Nat) (a : Attribute) :
    at? (put table kind a) other =
      if other = kind ∧ kind < table.length then some a else at? table other := by
  simp only [at?, put, List.getElem?_set]
  by_cases h : kind = other
  · subst h
    by_cases hk : kind < table.length <;> simp [hk]
  · simp [h, Ne.symm h]

end Table
end RouteNetlink
