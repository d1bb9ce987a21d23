/-! Text as an outline of lines, fields and blocks. A block's items stand one level below
its name; a level is four spaces, and each line ends with a newline. -/
namespace RouteNetlink

inductive Outline where
  | line (text : String)
  | field (name value : String)
  | block (name : String) (items : List Outline)

namespace Outline

/-- What a line says, and how deep it stands. -/
structure Line where
  depth : Nat
  text : String
  deriving DecidableEq

def Line.render (line : Line) : String :=
  String.ofList (List.replicate (4 * line.depth) ' ') ++ line.text ++ "\n"

mutual

def lines (depth : Nat) : Outline → List Line
  | line text => [⟨depth, text⟩]
  | field name value => [⟨depth, name ++ ": " ++ value⟩]
  | block name items => ⟨depth, name ++ ":"⟩ :: linesOf (depth + 1) items

def linesOf (depth : Nat) : List Outline → List Line
  | [] => []
  | item :: items => lines depth item ++ linesOf depth items

end

def render (items : List Outline) : String := String.join ((linesOf 0 items).map Line.render)

@[simp] theorem linesOf_nil (depth : Nat) : linesOf depth [] = [] := by simp [linesOf]

@[simp] theorem linesOf_append (depth : Nat) (as bs : List Outline) :
    linesOf depth (as ++ bs) = linesOf depth as ++ linesOf depth bs := by
  induction as with
  | nil => simp [linesOf]
  | cons a as ih => simp [linesOf, ih, List.append_assoc]

@[simp] theorem render_nil : render [] = "" := by simp [render]

@[simp] theorem render_append (as bs : List Outline) :
    render (as ++ bs) = render as ++ render bs := by
  simp [render]

end Outline
end RouteNetlink
