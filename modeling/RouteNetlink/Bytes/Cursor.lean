import RouteNetlink.Bytes.Layout

/-! Reading a body from front to back. A read that finds too few bytes names what it
needed and what there was, and leaves the cursor where it is. -/
namespace RouteNetlink

/-- The part of a body that has not been read. -/
structure Cursor where
  rest : List UInt8
  deriving DecidableEq

namespace Cursor

def remaining (cursor : Cursor) : Nat := cursor.rest.length

def require (cursor : Cursor) (n : Nat) : Except Fault Unit :=
  if cursor.remaining < n then .error (.truncated n cursor.remaining) else .ok ()

def bytes (cursor : Cursor) (n : Nat) : Except Fault (List UInt8 × Cursor) :=
  if cursor.remaining < n then .error (.truncated n cursor.remaining)
  else .ok (cursor.rest.take n, ⟨cursor.rest.drop n⟩)

def read {α : Type} (cursor : Cursor) (layout : Layout α) : Except Fault (α × Cursor) :=
  match layout.split? cursor.rest with
  | some (value, rest) => .ok (value, ⟨rest⟩)
  | none => .error (.truncated layout.width cursor.remaining)

/-- Up to `n` bytes are passed over; a body may end before its padding. -/
def skip (cursor : Cursor) (n : Nat) : Cursor := ⟨cursor.rest.drop n⟩

end Cursor
end RouteNetlink
