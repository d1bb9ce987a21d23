import RouteNetlink.Fault.Basic
import RouteNetlink.Text.Hex

/-! Plain data, the form in which values are exchanged with other tools. Words of 64 bits
are decimal text, as many tools keep no more than 53 bits of a number. -/
namespace RouteNetlink

inductive Datum where
  | null
  | bool (b : Bool)
  | number (n : Int)
  | text (s : String)
  | list (items : List Datum)
  | record (fields : List (String × Datum))

instance : Inhabited Datum := ⟨.null⟩

/-- Why data does not spell a value. -/
inductive Misfit where
  | missing (field : String)
  | expected (what : String)
  deriving DecidableEq

def Misfit.message : Misfit → String
  | missing field => "missing " ++ field
  | expected what => "expected " ++ what

class ToDatum (α : Type) where
  datum : α → Datum

export ToDatum (datum)

class OfDatum (α : Type) where
  read : Datum → Except Misfit α

namespace Datum

def depth : Datum → Nat
  | list items => depthOf items + 1
  | record fields => depthOfFields fields + 1
  | _ => 0
where
  depthOf : List Datum → Nat
    | [] => 0
    | d :: ds => max (depth d) (depthOf ds)
  depthOfFields : List (String × Datum) → Nat
    | [] => 0
    | (_, d) :: ds => max (depth d) (depthOfFields ds)

/-- A field that is there; one that is null is not. -/
def field? (d : Datum) (name : String) : Option Datum :=
  match d with
  | record fields =>
    match fields.lookup name with
    | some null => none
    | found => found
  | _ => none

def need {α : Type} [OfDatum α] (d : Datum) (name : String) : Except Misfit α :=
  match d.field? name with
  | some v => OfDatum.read v
  | none => .error (.missing name)

def optional {α : Type} [OfDatum α] (d : Datum) (name : String) : Except Misfit (Option α) :=
  match d.field? name with
  | some v => (OfDatum.read v).map some
  | none => .ok none

def getD {α : Type} [OfDatum α] (d : Datum) (name : String) (fallback : α) :
    Except Misfit α :=
  (d.optional name).map (·.getD fallback)

def items : Datum → Except Misfit (List Datum)
  | list ds => .ok ds
  | _ => .error (.expected "a list")

def int : Datum → Except Misfit Int
  | number n => .ok n
  | text s =>
    match s.toInt? with
    | some n => .ok n
    | none => .error (.expected "a number")
  | _ => .error (.expected "a number")

def nat (d : Datum) : Except Misfit Nat := do
  let n ← d.int
  if n < 0 then .error (.expected "a natural number") else .ok n.toNat

def natBelow {α : Type} (bound : Nat) (ofNat : Nat → α) (d : Datum) : Except Misfit α := do
  let n ← d.nat
  if n < bound then .ok (ofNat n) else .error (.expected "a smaller number")

def intWithin {α : Type} (bound : Int) (ofInt : Int → α) (d : Datum) : Except Misfit α := do
  let n ← d.int
  if -bound ≤ n ∧ n < bound then .ok (ofInt n) else .error (.expected "a smaller number")

def hex (bs : List UInt8) : Datum := text (Hex.bytes bs)

def ofHex : Datum → Except Misfit (List UInt8)
  | text s =>
    match Hex.parse? s with
    | some bs => .ok bs
    | none => .error (.expected "hexadecimal digits")
  | _ => .error (.expected "hexadecimal digits")

/-- Bytes of hexadecimal text, or the same bytes a number of times. -/
def piece (d : Datum) : Except Misfit (List UInt8) :=
  match d.field? "rep" with
  | some unit => do
    let unit ← unit.ofHex
    let n ← (d.field? "n").elim (.error (.missing "n")) nat
    return (List.replicate n unit).flatten
  | none => d.ofHex

def bytes : Datum → Except Misfit (List UInt8)
  | list ds => (ds.mapM piece).map List.flatten
  | d => d.piece

def needBytes (d : Datum) (name : String) : Except Misfit (List UInt8) :=
  match d.field? name with
  | some v => v.bytes
  | none => .error (.missing name)

def needItems (d : Datum) (name : String) : Except Misfit (List Datum) :=
  match d.field? name with
  | some v => v.items
  | none => .error (.missing name)

end Datum

instance : ToDatum Datum := ⟨id⟩
instance : ToDatum Unit := ⟨fun _ => .null⟩
instance : ToDatum Bool := ⟨.bool⟩
instance : ToDatum String := ⟨.text⟩
instance : ToDatum Nat := ⟨fun n => .number n⟩
instance : ToDatum UInt8 := ⟨fun n => .number n.toNat⟩
instance : ToDatum UInt16 := ⟨fun n => .number n.toNat⟩
instance : ToDatum UInt32 := ⟨fun n => .number n.toNat⟩
instance : ToDatum UInt64 := ⟨fun n => .text (toString n)⟩
instance : ToDatum Int8 := ⟨fun n => .number n.toInt⟩
instance : ToDatum Int16 := ⟨fun n => .number n.toInt⟩
instance : ToDatum Int32 := ⟨fun n => .number n.toInt⟩
instance : ToDatum Int64 := ⟨fun n => .text (toString n)⟩

instance {α : Type} [ToDatum α] : ToDatum (List α) := ⟨fun as => .list (as.map datum)⟩
instance {α : Type} {n : Nat} [ToDatum α] : ToDatum (Vector α n) :=
  ⟨fun as => .list (as.toList.map datum)⟩
instance {α : Type} [ToDatum α] : ToDatum (Option α) := ⟨fun a? => a?.elim .null datum⟩
instance {α β : Type} [ToDatum α] [ToDatum β] : ToDatum (α × β) :=
  ⟨fun (a, b) => .list [datum a, datum b]⟩

instance : OfDatum Datum := ⟨.ok⟩
instance : OfDatum Nat := ⟨Datum.nat⟩
instance : OfDatum UInt8 := ⟨Datum.natBelow UInt8.size UInt8.ofNat⟩
instance : OfDatum UInt16 := ⟨Datum.natBelow UInt16.size UInt16.ofNat⟩
instance : OfDatum UInt32 := ⟨Datum.natBelow UInt32.size UInt32.ofNat⟩
instance : OfDatum UInt64 := ⟨Datum.natBelow UInt64.size UInt64.ofNat⟩
instance : OfDatum Int8 := ⟨Datum.intWithin 0x80 Int8.ofInt⟩
instance : OfDatum Int16 := ⟨Datum.intWithin 0x8000 Int16.ofInt⟩
instance : OfDatum Int32 := ⟨Datum.intWithin 0x80000000 Int32.ofInt⟩
instance : OfDatum Int64 := ⟨Datum.intWithin 0x8000000000000000 Int64.ofInt⟩

instance : OfDatum Bool where
  read
    | .bool b => .ok b
    | _ => .error (.expected "a truth value")

instance : OfDatum String where
  read
    | .text s => .ok s
    | _ => .error (.expected "text")

instance {α : Type} [OfDatum α] : OfDatum (List α) where
  read d := do (← d.items).mapM OfDatum.read

instance {α : Type} {n : Nat} [OfDatum α] : OfDatum (Vector α n) where
  read d := do
    let as : List α ← OfDatum.read d
    if h : as.toArray.size = n then return ⟨as.toArray, h⟩
    else .error (.expected (toString n ++ " items"))

instance {α β : Type} [OfDatum α] [OfDatum β] : OfDatum (α × β) where
  read
    | .list [a, b] => do return (← OfDatum.read a, ← OfDatum.read b)
    | _ => .error (.expected "two items")

end RouteNetlink
