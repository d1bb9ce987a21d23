import RouteNetlink.Bytes.Layout
import RouteNetlink.Text.Hex

/-! Internet addresses and their canonical text. -/
namespace RouteNetlink

structure Ipv4 where
  octets : Vector UInt8 4
  deriving DecidableEq

namespace Ipv4

def layout : Layout Ipv4 :=
  (Layout.u8.many 4).rename Ipv4.mk Ipv4.octets (fun _ => rfl) (fun _ => rfl)

def text (address : Ipv4) : String :=
  ".".intercalate (address.octets.toList.map fun b => toString b.toNat)

end Ipv4

structure Ipv6 where
  octets : Vector UInt8 16
  deriving DecidableEq

namespace Ipv6

def layout : Layout Ipv6 :=
  (Layout.u8.many 16).rename Ipv6.mk Ipv6.octets (fun _ => rfl) (fun _ => rfl)

def groupsOf : List UInt8 → List Nat
  | high :: low :: rest => (high.toNat * 256 + low.toNat) :: groupsOf rest
  | _ => []

def groups (address : Ipv6) : List Nat := groupsOf address.octets.toList

/-- The address of the other family that this one stands for. -/
def mapped? (address : Ipv6) : Option Ipv4 :=
  if address.groups.take 6 = [0, 0, 0, 0, 0, 0xffff] then
    some (Ipv4.layout.decode (address.octets.toList.drop 12))
  else none

def zeroRun (groups : List Nat) : Nat := (groups.takeWhile (· = 0)).length

/-- Where the longest run of zero groups starts, and its length; of equal ones the first. -/
def longestZeros : List Nat → Nat × Nat
  | [] => (0, 0)
  | g :: gs =>
    let later := longestZeros gs
    if later.2 ≤ zeroRun (g :: gs) then (0, zeroRun (g :: gs)) else (later.1 + 1, later.2)

def groupText (groups : List Nat) : String := ":".intercalate (groups.map Hex.digits)

/-- A run of two or more zero groups is left out once; only a mapped address keeps the
dotted form. -/
def text (address : Ipv6) : String :=
  match address.mapped? with
  | some inner => "::ffff:" ++ inner.text
  | none =>
    let (start, length) := longestZeros address.groups
    if 1 < length then
      groupText (address.groups.take start) ++ "::" ++
        groupText (address.groups.drop (start + length))
    else groupText address.groups

end Ipv6

inductive Ip where
  | v4 (address : Ipv4)
  | v6 (address : Ipv6)
  deriving DecidableEq

namespace Ip

def text : Ip → String
  | v4 address => address.text
  | v6 address => address.text

end Ip
end RouteNetlink
