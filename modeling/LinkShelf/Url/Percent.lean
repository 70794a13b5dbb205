import LinkShelf.Json.Reader
import LinkShelf.Text.Utf8

/-! Octets that are written as two hexadecimal digits behind a percent sign. -/
namespace LinkShelf
namespace Url

/-- The parts of an address, which differ in the characters that are written as octets. -/
inductive Part where
  | host
  | user
  | path
  | query
  | specialQuery
  | fragment
  deriving DecidableEq, Repr

def Part.marks : Part → String
  | host => ""
  | query => " \"#<>"
  | specialQuery => " \"#<>'"
  | fragment => " \"<>`"
  | path => " \"<>`#?\x7b\x7d"
  | user => " \"<>`#?\x7b\x7d/:;=@[\\]^|"

def upperDigit (n : Nat) : Char := (Nat.digitChar n).toUpper

def encodeOctet (b : UInt8) : List Char :=
  ['%', upperDigit (b.toNat / 16), upperDigit (b.toNat % 16)]

/-- Controls and all that is not ASCII is written as octets in every part. -/
def encodeChar (p : Part) (c : Char) : List Char :=
  if c < ' ' || '~' < c || p.marks.toList.contains c then (Utf8.encodeChar c).flatMap encodeOctet
  else [c]

def encode (p : Part) (cs : List Char) : List Char := cs.flatMap (encodeChar p)

/-- The octets of a text. A percent sign without digits stands for itself. -/
def decodeOctets : List Char → Bytes
  | '%' :: a :: b :: cs =>
    match Json.hexValue? a, Json.hexValue? b with
    | some x, some y => UInt8.ofNat (16 * x + y) :: decodeOctets cs
    | _, _ => Utf8.encodeChar '%' ++ decodeOctets (a :: b :: cs)
  | c :: cs => Utf8.encodeChar c ++ decodeOctets cs
  | [] => []

end Url
end LinkShelf
