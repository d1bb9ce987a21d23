/-! UTF-8 in both directions. Decoding never fails: each maximal run of bytes that starts
a character and cannot be completed stands for one replacement character, and so does
each byte that starts none. -/
namespace RouteNetlink
namespace Utf8

def replacement : Char := '\uFFFD'

/-- A character of which some bytes are still missing: the bits read so far, the range of
the next byte, and how many bytes follow that one. -/
structure Unfinished where
  bits : Nat
  low : UInt8
  high : UInt8
  after : Nat
  deriving DecidableEq

inductive Progress where
  | char (c : Char)
  | unfinished (u : Unfinished)
  | stray
  deriving DecidableEq

/-- What a byte means where a character may start. The narrow ranges keep out long forms,
surrogates and numbers past the last character. -/
def start (b : UInt8) : Progress :=
  let n := b.toNat
  if n < 0x80 then .char (Char.ofNat n)
  else if n < 0xC2 then .stray
  else if n < 0xE0 then .unfinished ⟨n - 0xC0, 0x80, 0xBF, 0⟩
  else if n = 0xE0 then .unfinished ⟨n - 0xE0, 0xA0, 0xBF, 1⟩
  else if n = 0xED then .unfinished ⟨n - 0xE0, 0x80, 0x9F, 1⟩
  else if n < 0xF0 then .unfinished ⟨n - 0xE0, 0x80, 0xBF, 1⟩
  else if n = 0xF0 then .unfinished ⟨n - 0xF0, 0x90, 0xBF, 2⟩
  else if n = 0xF4 then .unfinished ⟨n - 0xF0, 0x80, 0x8F, 2⟩
  else if n < 0xF4 then .unfinished ⟨n - 0xF0, 0x80, 0xBF, 2⟩
  else .stray

def Unfinished.next (u : Unfinished) (b : UInt8) : Progress :=
  if u.low ≤ b ∧ b ≤ u.high then
    let bits := u.bits * 64 + (b.toNat - 0x80)
    match u.after with
    | 0 => .char (Char.ofNat bits)
    | after + 1 => .unfinished ⟨bits, 0x80, 0xBF, after⟩
  else .stray

/-- Characters read so far, the latest first, and the unfinished one. -/
structure Reading where
  chars : List Char
  open? : Option Unfinished

namespace Reading

def begin (chars : List Char) (b : UInt8) : Reading :=
  match start b with
  | .char c => ⟨c :: chars, none⟩
  | .unfinished u => ⟨chars, some u⟩
  | .stray => ⟨replacement :: chars, none⟩

/-- A byte that cannot complete a character starts anew behind a replacement. -/
def push (r : Reading) (b : UInt8) : Reading :=
  match r.open? with
  | none => begin r.chars b
  | some u =>
    match u.next b with
    | .char c => ⟨c :: r.chars, none⟩
    | .unfinished u => ⟨r.chars, some u⟩
    | .stray => begin (replacement :: r.chars) b

def finish (r : Reading) : List Char :=
  match r.open? with
  | none => r.chars.reverse
  | some _ => (replacement :: r.chars).reverse

end Reading

def decode (bs : List UInt8) : String :=
  String.ofList (bs.foldl Reading.push ⟨[], none⟩).finish

def encode (s : String) : List UInt8 := s.toList.flatMap String.utf8EncodeChar

/-- The text in front of the first zero byte, or all of it where there is none. -/
def decodeTerminated (bs : List UInt8) : String := decode (bs.takeWhile (· ≠ 0))

end Utf8
end RouteNetlink
