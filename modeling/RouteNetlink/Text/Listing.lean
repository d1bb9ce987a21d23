import RouteNetlink.Text.CharRanges

/-! Values on one line, as logs show them: quoted text, lists, wrapped values and records
with named fields. -/
namespace RouteNetlink
namespace Listing

/-- Quotes, backslashes and whatever cannot be read off the line are escaped; what has no
short escape is numbered in hexadecimal. -/
def escape (c : Char) : List Char :=
  match c with
  | '\x00' => ['\\', '0']
  | '\t' => ['\\', 't']
  | '\n' => ['\\', 'n']
  | '\r' => ['\\', 'r']
  | '"' => ['\\', '"']
  | '\\' => ['\\', '\\']
  | c =>
    if CharRanges.isLegible c then [c]
    else ['\\', 'u', '\x7b'] ++ Nat.toDigits 16 c.toNat ++ ['\x7d']

def quoted (s : String) : String := "\"" ++ String.ofList (s.toList.flatMap escape) ++ "\""

def list (items : List String) : String := "[" ++ ", ".intercalate items ++ "]"

def entry (item : String × String) : String := item.1 ++ ": " ++ item.2

def map (items : List (String × String)) : String :=
  "\x7b" ++ ", ".intercalate (items.map entry) ++ "\x7d"

/-- A value behind the name of what it is. -/
def wrapped (name value : String) : String := name ++ "(" ++ value ++ ")"

/-- Named fields behind the name of what they make up. -/
def record (name : String) (fields : List (String × String)) : String :=
  name ++ " \x7b " ++ ", ".intercalate (fields.map entry) ++ " \x7d"

def optional : Option String → String
  | none => "None"
  | some value => wrapped "Some" value

end Listing
end RouteNetlink
