import RouteNetlink.Message.Decode
import RouteNetlink.Pool.Basic

/-! Decoding records into tables of a pool. Each table is lent before its run is read. A
fault gives back all that was lent for the record. -/
namespace RouteNetlink

namespace HeldTable

/-- A decoder hands on the pool also where it fails. -/
abbrev Decoder := Pool → List UInt8 → Except Fault Held × Pool

def decodeItem (label : String) (decoders : List Decoder) (pool : Pool) (item : RunItem) :
    Except Fault Held × Pool :=
  match decoders[item.kind]? with
  | some decoder => decoder pool item.payload
  | none => (.error (.unknownAttribute label item.kind decoders.length), pool)

/-- Stores the attributes of a run one after another. An attribute that is replaced is
dropped once its successor is in place. -/
def fill (label : String) (decoders : List Decoder) :
    Pool → HeldTable → List (Except Fault RunItem) → Except Fault HeldTable × Pool
  | pool, table, [] => (.ok table, pool)
  | pool, table, .error fault :: _ => (.error fault, pool.releaseTable table)
  | pool, table, .ok item :: items =>
    match decodeItem label decoders pool item with
    | (.error fault, pool) => (.error fault, pool.releaseTable table)
    | (.ok a, pool) =>
      let (table, left?) := table.put item.kind a
      fill label decoders (pool.releaseLeft left?) table items

def decodeRun (label : String) (decoders : List Decoder) (pool : Pool) (bs : List UInt8) :
    Except Fault HeldTable × Pool :=
  let (table, pool) := pool.borrow decoders.length
  fill label decoders pool table (RunItem.all bs)

end HeldTable

namespace Format

mutual

def hold : Format → HeldTable.Decoder
  | plain form => fun pool bs => ((form.decode bs).map .value, pool)
  | nested nest label rows => fun pool bs =>
    let (table, pool) := HeldTable.decodeRun label (holders rows) pool bs
    (table.map (·.nested nest), pool)

def holders : List (String × Format) → List HeldTable.Decoder
  | [] => []
  | (_, format) :: rows => hold format :: holders rows

end

@[simp] theorem holders_eq_map (rows : List (String × Format)) :
    holders rows = rows.map fun row => hold row.2 := by
  induction rows with
  | nil => simp [holders]
  | cons row rows ih => simp [holders, ih]

end Format

/-- A message whose attributes may come from a pool. -/
inductive HeldMessage where
  | bare (message : Message)
  | entity (header : Header) (entity : Entity) (attributes : HeldTable)

namespace HeldMessage

def plain : HeldMessage → Message
  | bare message => message
  | entity header e attributes => ⟨header, .entity e attributes.plain⟩

def clone : HeldMessage → HeldMessage
  | bare message => bare message
  | entity header e attributes => entity header e attributes.clone

def release (pool : Pool) : HeldMessage → Pool
  | bare _ => pool
  | entity _ _ attributes => pool.releaseTable attributes

def decode (pool : Pool) (record : List UInt8) : Except Fault HeldMessage × Pool :=
  match Opened.ofRecord record with
  | .error fault => (.error fault, pool)
  | .ok (.complete message) => (.ok (bare message), pool)
  | .ok (.attributed header e run) =>
    let (attributes, pool) :=
      HeldTable.decodeRun e.schema.label (Format.holders e.schema.rows) pool run
    (attributes.map (entity header e), pool)

end HeldMessage
end RouteNetlink
