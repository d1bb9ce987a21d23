import RouteNetlink.Attribute.Run

/-! Decoding payloads and runs. A run becomes a table in which the last attribute of a kind
stays; the first faulty one fails the whole run, also where a later one would have
replaced it. -/
namespace RouteNetlink

namespace Table

/-- One decoder for each kind of a table. -/
abbrev Decoders := List (List UInt8 → Except Fault Attribute)

def decodeItem (label : String) (decoders : Decoders) (item : RunItem) :
    Except Fault Attribute :=
  match decoders[item.kind]? with
  | some decoder => decoder item.payload
  | none => .error (.unknownAttribute label item.kind decoders.length)

def decodeInto (label : String) (decoders : Decoders) (table : Table)
    (item? : Except Fault RunItem) : Except Fault Table := do
  let item ← item?
  let a ← decodeItem label decoders item
  return Table.put table item.kind a

def decodeRun (label : String) (decoders : Decoders) (bs : List UInt8) : Except Fault Table :=
  (RunItem.all bs).foldlM (decodeInto label decoders) (Table.empty decoders.length)

end Table

namespace Format

mutual

def decode : Format → List UInt8 → Except Fault Attribute
  | plain form => fun bs => (form.decode bs).map .value
  | nested nest label rows => fun bs =>
    (Table.decodeRun label (decoders rows) bs).map (.table nest)

def decoders : List (String × Format) → Table.Decoders
  | [] => []
  | (_, format) :: rows => decode format :: decoders rows

end

@[simp] theorem decoders_eq_map (rows : List (String × Format)) :
    decoders rows = rows.map fun row => decode row.2 := by
  induction rows with
  | nil => simp [decoders]
  | cons row rows ih => simp [decoders, ih]

end Format

def Schema.decode (schema : Schema) (bs : List UInt8) : Except Fault Table :=
  Table.decodeRun schema.label (Format.decoders schema.rows) bs

end RouteNetlink
