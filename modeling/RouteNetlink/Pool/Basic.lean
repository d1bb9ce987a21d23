import RouteNetlink.Pool.Held

/-! Recycled slots. A pool lends tables of any size and takes back at most as many as it
has room for. -/
namespace RouteNetlink

structure Pool where
  capacity : Nat
  /-- Slots that wait for reuse, the latest first. -/
  idle : List (List (Option Held))

namespace Pool

def new (capacity : Nat) : Pool := ⟨capacity, []⟩

def available (pool : Pool) : Nat := pool.idle.length

/-- Slots brought to a size: surplus ones go, missing ones are empty. -/
def resize (slots : List (Option Held)) (size : Nat) : List (Option Held) :=
  slots.take size ++ List.replicate (size - slots.length) none

def borrow (pool : Pool) (size : Nat) : HeldTable × Pool :=
  match pool.idle with
  | [] => (⟨true, resize [] size⟩, pool)
  | slots :: idle => (⟨true, resize slots size⟩, { pool with idle := idle })

/-- Takes emptied slots back, if there is room. -/
def giveBack (pool : Pool) : Pool :=
  if pool.idle.length < pool.capacity then { pool with idle := [] :: pool.idle } else pool

mutual

/-- Drops an attribute: first what is inside its table, then the table. -/
def release (pool : Pool) : Held → Pool
  | .value _ => pool
  | .table _ pooled slots =>
    if pooled then (releaseSlots pool slots).giveBack else releaseSlots pool slots

def releaseSlots (pool : Pool) : List (Option Held) → Pool
  | [] => pool
  | none :: slots => releaseSlots pool slots
  | some a :: slots => releaseSlots (release pool a) slots

end

def releaseTable (pool : Pool) (table : HeldTable) : Pool :=
  if table.pooled then (releaseSlots pool table.slots).giveBack
  else releaseSlots pool table.slots

def releaseLeft (pool : Pool) : Option Held → Pool
  | none => pool
  | some a => release pool a

@[simp] theorem available_new (capacity : Nat) : (new capacity).available = 0 := rfl

end Pool
end RouteNetlink
