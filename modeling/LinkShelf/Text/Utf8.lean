/-! UTF-8: the bytes of a text, and the text of bytes. -/
namespace LinkShelf

abbrev Bytes := List UInt8

namespace Utf8

def encodeChar (c : Char) : Bytes :=
  let n := c.toNat
  if n < 0x80 then [UInt8.ofNat n]
  else if n < 0x800 then [UInt8.ofNat (0xC0 + n / 64), UInt8.ofNat (0x80 + n % 64)]
  else if n < 0x10000 then
    [UInt8.ofNat (0xE0 + n / 4096), UInt8.ofNat (0x80 + n / 64 % 64), UInt8.ofNat (0x80 + n % 64)]
  else
    [UInt8.ofNat (0xF0 + n / 262144), UInt8.ofNat (0x80 + n / 4096 % 64),
      UInt8.ofNat (0x80 + n / 64 % 64), UInt8.ofNat (0x80 + n % 64)]

def encode (cs : List Char) : Bytes := cs.flatMap encodeChar

def isTail (b : UInt8) : Bool := 0x80 ≤ b && b < 0xC0

def tailBits (b : UInt8) : Nat := b.toNat % 64

def one? (a : UInt8) : Option Char := if a < 0x80 then some (Char.ofNat a.toNat) else none

/-- The character of two bytes. Forms longer than needed are refused, here and below. -/
def two? (a b : UInt8) : Option Char :=
  if 0xC2 ≤ a && a < 0xE0 && isTail b then some (Char.ofNat (a.toNat % 32 * 64 + tailBits b))
  else none

/-- The character of three bytes. The numbers of surrogates are refused. -/
def three? (a b c : UInt8) : Option Char :=
  let n := a.toNat % 16 * 4096 + tailBits b * 64 + tailBits c
  if 0xE0 ≤ a && a < 0xF0 && isTail b && isTail c && 0x800 ≤ n && !(0xD800 ≤ n && n < 0xE000) then
    some (Char.ofNat n)
  else none

/-- The character of four bytes. Numbers past the last character are refused. -/
def four? (a b c d : UInt8) : Option Char :=
  let n := a.toNat % 8 * 262144 + tailBits b * 4096 + tailBits c * 64 + tailBits d
  if 0xF0 ≤ a && a < 0xF5 && isTail b && isTail c && isTail d && 0x10000 ≤ n && n < 0x110000 then
    some (Char.ofNat n)
  else none

/-- The characters of the bytes, or how many bytes stand before the first that belongs to none. -/
def decodeFrom (start : Nat) : Bytes → Except Nat (List Char)
  | [] => .ok []
  | a :: rest =>
    match one? a, rest with
    | some x, rest => (decodeFrom (start + 1) rest).map (x :: ·)
    | none, [] => .error start
    | none, b :: rest =>
      match two? a b, rest with
      | some x, rest => (decodeFrom (start + 2) rest).map (x :: ·)
      | none, [] => .error start
      | none, c :: rest =>
        match three? a b c, rest with
        | some x, rest => (decodeFrom (start + 3) rest).map (x :: ·)
        | none, [] => .error start
        | none, d :: rest =>
          match four? a b c d with
          | some x => (decodeFrom (start + 4) rest).map (x :: ·)
          | none => .error start

def decode (bs : Bytes) : Except Nat (List Char) := decodeFrom 0 bs

def decode? (bs : Bytes) : Option String :=
  match decode bs with
  | .ok cs => some (String.ofList cs)
  | .error _ => none

def encodeString (s : String) : Bytes := encode s.toList

end Utf8
end LinkShelf
