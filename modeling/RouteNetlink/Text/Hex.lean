/-! Numbers and bytes in lower-case hexadecimal digits. -/
namespace RouteNetlink
namespace Hex

def byte (b : UInt8) : List Char :=
  [Nat.digitChar (b.toNat / 16), Nat.digitChar (b.toNat % 16)]

def bytes (bs : List UInt8) : String := String.ofList (bs.flatMap byte)

def digits (n : Nat) : String := String.ofList (Nat.toDigits 16 n)

def number (n : Nat) : String := "0x" ++ digits n

def digit? (c : Char) : Option Nat :=
  if '0' ≤ c ∧ c ≤ '9' then some (c.toNat - '0'.toNat)
  else if 'a' ≤ c ∧ c ≤ 'f' then some (c.toNat - 'a'.toNat + 10)
  else none

/-- The bytes that pairs of digits spell, behind those read before, the latest first. -/
def parseOnto (read : List UInt8) : List Char → Option (List UInt8)
  | [] => some read.reverse
  | [_] => none
  | high :: low :: rest =>
    match digit? high, digit? low with
    | some h, some l => parseOnto (UInt8.ofNat (16 * h + l) :: read) rest
    | _, _ => none

def parse? (s : String) : Option (List UInt8) := parseOnto [] s.toList

@[simp] theorem toList_bytes (bs : List UInt8) : (bytes bs).toList = bs.flatMap byte := by
  simp [bytes]

end Hex
end RouteNetlink
