import RouteNetlink.Bytes.Layout
import RouteNetlink.Text.Outline
import RouteNetlink.Vocabulary.Link

/-! Traffic counters of a link. The kernel may send more of them than are kept. -/
namespace RouteNetlink

/-- The first twenty-three counters in wire order. -/
abbrev Counters (α : Type) := Vector α 23

namespace Counters

def layout32 : Layout (Counters UInt32) := Layout.u32.many 23
def layout64 : Layout (Counters UInt64) := Layout.u64.many 23

def widen (counters : Counters UInt32) : Counters UInt64 := counters.map UInt32.toUInt64

def receivedPackets : Fin 23 := 0
def sentPackets : Fin 23 := 1
def receivedBytes : Fin 23 := 2
def sentBytes : Fin 23 := 3

/-- A sum that has no value once it leaves the word. -/
def sum? (a b : UInt64) : Option UInt64 :=
  if a.toNat + b.toNat < UInt64.size then some (a + b) else none

def totalPackets? (counters : Counters UInt64) : Option UInt64 :=
  sum? counters[receivedPackets] counters[sentPackets]

def totalBytes? (counters : Counters UInt64) : Option UInt64 :=
  sum? counters[receivedBytes] counters[sentBytes]

def indexed {α : Type} (counters : Counters α) : List (α × Nat) := counters.toList.zipIdx

/-- The two packet counters always, another one where it counted something. -/
def outline (counters : Counters UInt64) : List Outline :=
  (indexed counters).filterMap fun (count, i) =>
    if count ≠ 0 ∨ i = receivedPackets.val ∨ i = sentPackets.val then
      some (.field (Vocabulary.linkStatistic.label i) (toString count))
    else none

end Counters
end RouteNetlink
