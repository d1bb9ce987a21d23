import RouteNetlink.Text.ExtendingChars
import RouteNetlink.Text.IgnorableChars
import RouteNetlink.Text.UnprintableChars

/-! Which characters can be read off a line: those that print something, are not left out,
and do not attach to the character before them. -/
namespace RouteNetlink
namespace CharRanges

/-- Whether a number lies in one of the ranges, which come in order. -/
def covers : List (Nat × Nat) → Nat → Bool
  | [], _ => false
  | (first, last) :: ranges, n =>
    if n < first then false else if n ≤ last then true else covers ranges n

/-- Whether a character stands for itself wherever it appears. -/
def isLegible (c : Char) : Bool :=
  !covers unprintable c.toNat && !covers ignorable c.toNat && !covers extending c.toNat

end CharRanges
end RouteNetlink
