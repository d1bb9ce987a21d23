import RouteNetlink.Attribute.Schema
import RouteNetlink.Bytes.Alignment

/-! A run of attributes in wire order. Each has a length of sixteen bits that counts its
own header, a kind of sixteen bits, the payload, and padding to the next boundary, which
the last one may leave out. Fewer than four bytes at the end are padding too. -/
namespace RouteNetlink

structure RunItem where
  kind : Nat
  payload : List UInt8
  deriving DecidableEq

namespace RunItem

def header : Layout (UInt16 × UInt16) := Layout.u16.pair Layout.u16

def headerSize : Nat := 4

/-- The two top bits of a kind are flags. -/
def kindMask : UInt16 := 0x3fff
def nestedFlag : UInt16 := 0x8000

/-- The raw kind and the payload of the attribute at the front, and what follows it. -/
def split? (bs : List UInt8) : Option ((UInt16 × List UInt8) × List UInt8) :=
  match header.split? bs with
  | none => none
  | some ((length, kind), rest) =>
    let size := length.toNat - headerSize
    if headerSize ≤ length.toNat ∧ reaches size rest then
      some ((kind, rest.take size), rest.drop (align4 size))
    else none

def declared (bs : List UInt8) : Nat := (header.decode (bs.take headerSize)).1.toNat

theorem length_of_split? {bs rest : List UInt8} {raw : UInt16 × List UInt8}
    (h : split? bs = some (raw, rest)) : rest.length < bs.length := by
  unfold split? at h
  split at h
  · cases h
  · rename_i length kind tail hs
    unfold Layout.split? at hs
    split at hs
    · rename_i hw
      rw [reaches_iff] at hw
      cases hs
      have hw4 : header.width = 4 := rfl
      dsimp only at h
      split at h
      · cases h
        simp only [List.length_drop]
        omega
      · cases h
    · cases hs

/-- The attributes of a run. A header whose length is below its own size, or past the end,
is a fault and ends the run. -/
def all (bs : List UInt8) : List (Except Fault RunItem) :=
  if reaches headerSize bs then
    match h : split? bs with
    | some (raw, rest) =>
      have := length_of_split? h
      .ok ⟨(raw.1 &&& kindMask).toNat, raw.2⟩ :: all rest
    | none => [.error (.truncated (max (declared bs) headerSize) bs.length)]
  else []
termination_by bs.length

end RunItem
end RouteNetlink
