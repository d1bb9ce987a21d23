import RouteNetlink.Attribute.Schema

/-! Attributes as text. A value that fits a line stands behind its name; tables, counters
and the like make a block under it. -/
namespace RouteNetlink

namespace Attribute

def isMultiline : Attribute → Bool
  | value v => v.line?.isNone
  | table _ _ => true

mutual

def outline : Attribute → List Outline
  | value v => v.outline
  | table nest slots => outlineSlots nest.schema.name 0 slots

def outlineSlots (name : Nat → String) (kind : Nat) : List (Option Attribute) → List Outline
  | [] => []
  | none :: slots => outlineSlots name (kind + 1) slots
  | some a :: slots => outlineNamed (name kind) a :: outlineSlots name (kind + 1) slots

def outlineNamed (name : String) : Attribute → Outline
  | value v =>
    match v.line? with
    | some line => .field name line
    | none => .block name v.outline
  | table nest slots => .block name (outlineSlots nest.schema.name 0 slots)

end

/-- One line without its end, or a block of whole lines. -/
def text : Attribute → String
  | value v =>
    match v.line? with
    | some line => line
    | none => Outline.render v.outline
  | table nest slots => Outline.render (outline (table nest slots))

end Attribute

namespace Table

def outline (name : Nat → String) (table : Table) : List Outline :=
  Attribute.outlineSlots name 0 table

end Table
end RouteNetlink
