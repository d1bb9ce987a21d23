import RouteNetlink.Text.Hex

/-! Flag words as text: the names of the set bits that have one, in table order, then
what is left as one hexadecimal number. -/
namespace RouteNetlink

structure FlagNames where
  entries : List (UInt64 × String)
  empty : String

namespace FlagNames

def held (names : FlagNames) (bits : UInt64) : List (UInt64 × String) :=
  names.entries.filter fun e => bits &&& e.1 = e.1 ∧ e.1 ≠ 0

/-- The bits that no held entry names. -/
def unnamed (names : FlagNames) (bits : UInt64) : UInt64 :=
  (names.held bits).foldl (fun rest e => rest &&& ~~~e.1) bits

def parts (names : FlagNames) (bits : UInt64) : List String :=
  (names.held bits).map Prod.snd ++
    if names.unnamed bits = 0 then [] else [Hex.number (names.unnamed bits).toNat]

def text (names : FlagNames) (bits : UInt64) : String :=
  if bits = 0 then names.empty else " | ".intercalate (names.parts bits)

def declared (names : FlagNames) : UInt64 :=
  names.entries.foldl (fun all e => all ||| e.1) 0

end FlagNames
end RouteNetlink
