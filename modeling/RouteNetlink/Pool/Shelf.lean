import RouteNetlink.Named
import RouteNetlink.Pool.Decode

/-! Tables and messages under names, beside the pool that lends to them. What takes a name
is made before what had it is dropped. -/
namespace RouteNetlink

inductive ShelfItem where
  | table (held : HeldTable)
  | message (held : HeldMessage)

namespace ShelfItem

def release (pool : Pool) : ShelfItem → Pool
  | table held => pool.releaseTable held
  | message held => held.release pool

def clone : ShelfItem → ShelfItem
  | table held => .table held.clone
  | message held => .message held.clone

/-- Whether two items say the same, wherever their slots came from. -/
def same : ShelfItem → ShelfItem → Bool
  | table a, table b => a.plain = b.plain
  | message a, message b => a.plain = b.plain
  | _, _ => false

end ShelfItem

structure Shelf where
  pool : Pool
  items : Named ShelfItem

namespace Shelf

def new (capacity : Nat) : Shelf := ⟨Pool.new capacity, []⟩

def table? (shelf : Shelf) (name : String) : Option HeldTable :=
  match shelf.items.lookup name with
  | some (.table held) => some held
  | _ => none

def drop (shelf : Shelf) (name : String) : Shelf where
  pool := (shelf.items.lookup name).elim shelf.pool (·.release shelf.pool)
  items := shelf.items.forget name

def keep (shelf : Shelf) (name : String) (item : ShelfItem) : Shelf :=
  let shelf := shelf.drop name
  { shelf with items := shelf.items.keep name item }

def borrow (shelf : Shelf) (name : String) (size : Nat) : Shelf :=
  let (table, pool) := shelf.pool.borrow size
  keep { shelf with pool } name (.table table)

def create (shelf : Shelf) (name : String) (size : Nat) : Shelf :=
  shelf.keep name (.table (HeldTable.new size))

/-- Decodes a record and keeps the message. A fault leaves the name as it was. -/
def decode (shelf : Shelf) (name : String) (record : List UInt8) :
    Except Fault Message × Shelf :=
  let (outcome, pool) := HeldMessage.decode shelf.pool record
  let shelf := { shelf with pool }
  match outcome with
  | .ok message => (.ok message.plain, shelf.keep name (.message message))
  | .error fault => (.error fault, shelf)

def settle (shelf : Shelf) (name : String) (change : HeldTable × Option Held) : Shelf where
  pool := shelf.pool.releaseLeft change.2
  items := shelf.items.keep name (.table change.1)

def nest (shelf : Shelf) (name inner : String) (kind : Nat) (nest : Nest) : Option Shelf :=
  if name = inner then none
  else
    match shelf.table? name, shelf.table? inner with
    | some table, some source =>
      let shelf := { shelf with items := shelf.items.forget inner }
      some (shelf.settle name (table.put kind (source.nested nest)))
    | _, _ => none

def clone (shelf : Shelf) (name source : String) : Option Shelf :=
  (shelf.items.lookup source).map fun item => shelf.keep name item.clone

def same? (shelf : Shelf) (name other : String) : Option Bool :=
  match shelf.items.lookup name, shelf.items.lookup other with
  | some a, some b => some (a.same b)
  | _, _ => none

end Shelf
end RouteNetlink
