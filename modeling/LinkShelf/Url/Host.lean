import LinkShelf.Text.White
import LinkShelf.Url.Domain
import LinkShelf.Url.Percent

/-! Hosts: names and addresses of four and of sixteen octets. -/
namespace LinkShelf
namespace Url

inductive UrlError where
  | noScheme
  | emptyHost
  | invalidDomain
  | invalidHostCharacter
  | invalidPort
  | invalidIpv4
  | invalidIpv6
  deriving DecidableEq, Repr

def UrlError.message : UrlError → String
  | noScheme => "relative URL without a base"
  | emptyHost => "empty host"
  | invalidDomain => "invalid international domain name"
  | invalidHostCharacter => "invalid domain character"
  | invalidPort => "invalid port number"
  | invalidIpv4 => "invalid IPv4 address"
  | invalidIpv6 => "invalid IPv6 address"

inductive Host where
  | named (cs : List Char)
  | ipv4 (n : Nat)
  /-- Eight numbers of two octets. -/
  | ipv6 (pieces : List Nat)
  deriving DecidableEq, Repr

namespace Host

def isEmpty : Host → Bool
  | named cs => cs.isEmpty
  | _ => false

/-! Four octets. -/

def digitsIn (base : Nat) (cs : List Char) : Option Nat :=
  cs.foldlM (fun n c => (Json.hexValue? c).bind fun d =>
    if d < base then some (base * n + d) else none) 0

/-- A number with an optional mark of its base: `0x` for hexadecimal, a leading zero for octal. -/
def ipv4Number? : List Char → Option Nat
  | [] => none
  | '0' :: 'x' :: cs => digitsIn 16 cs
  | '0' :: 'X' :: cs => digitsIn 16 cs
  | '0' :: c :: cs => digitsIn 8 (c :: cs)
  | cs => digitsIn 10 cs

def ipv4Pieces (cs : List Char) : List (List Char) :=
  let ps := Text.pieces (· == '.') cs
  if ps.getLast? == some [] then ps.dropLast else ps

/-- Whether a name must be an address of four octets. -/
def endsInNumber (cs : List Char) : Bool :=
  match (ipv4Pieces cs).getLast? with
  | some p => (!p.isEmpty && p.all Char.isDigit) || (ipv4Number? p).isSome
  | none => false

/-- One to four numbers. The last one stands for all octets that are left. -/
def ipv4Of (ns : List Nat) : Option Nat :=
  match ns.getLast? with
  | none => none
  | some last =>
    let heads := ns.dropLast
    let room := 8 * (4 - heads.length)
    if 3 < heads.length || heads.any (255 < ·) || 1 <<< room ≤ last then none
    else some (heads.foldl (fun n d => 256 * n + d) 0 <<< room + last)

def readIpv4 (cs : List Char) : Option Nat := do ipv4Of (← (ipv4Pieces cs).mapM ipv4Number?)

def writeIpv4 (n : Nat) : List Char :=
  ['.'].intercalate
    ([n / 16777216, n / 65536 % 256, n / 256 % 256, n % 256].map (Nat.toDigits 10))

/-! Sixteen octets. -/

def octet? (cs : List Char) : Option Nat :=
  if cs.isEmpty || (1 < cs.length && cs.head? == some '0') then none
  else (digitsIn 10 cs).bind fun n => if n < 256 then some n else none

def dotted? (cs : List Char) : Option (List Nat) := do
  match ← (Text.pieces (· == '.') cs).mapM octet? with
  | [a, b, c, d] => some [256 * a + b, 256 * c + d]
  | _ => none

/-- Reads on behind the numbers read so far; `gap` is how many stand in front of a double colon,
which counts as a zero itself. -/
def ipv6Pieces : (fuel : Nat) → (pieces : List Nat) → (gap : Option Nat) → List Char →
    Option (List Nat × Option Nat)
  | 0, _, _, _ => none
  | _ + 1, pieces, gap, [] => some (pieces, gap)
  | fuel + 1, pieces, gap, c :: cs =>
    if 8 ≤ pieces.length then none
    else if c = ':' then
      if gap.isSome then none else ipv6Pieces fuel (pieces ++ [0]) (some (pieces.length + 1)) cs
    else
      let digits := ((c :: cs).take 4).takeWhile fun d => (Json.hexValue? d).isSome
      let value := (digitsIn 16 digits).getD 0
      match (c :: cs).drop digits.length with
      | [] => some (pieces ++ [value], gap)
      | ':' :: rest =>
        if rest.isEmpty then none else ipv6Pieces fuel (pieces ++ [value]) gap rest
      | '.' :: _ =>
        if digits.isEmpty || 6 < pieces.length then none
        else (dotted? (c :: cs)).map fun ds => (pieces ++ ds, gap)
      | _ => none

def readIpv6 (cs : List Char) : Option (List Nat) := do
  let (pieces, gap) ←
    match cs with
    | ':' :: ':' :: rest => ipv6Pieces (rest.length + 1) [0] (some 1) rest
    | [] | [_] | ':' :: _ => none
    | _ => ipv6Pieces (cs.length + 1) [] none cs
  match gap with
  | some g => some (pieces.take g ++ List.replicate (8 - pieces.length) 0 ++ pieces.drop g)
  | none => if pieces.length = 8 then some pieces else none

def zeroRun (ns : List Nat) : Nat := (ns.takeWhile (· = 0)).length

/-- The longest run of zeros, the first of such, if it is longer than one. -/
def longestRun (ns : List Nat) : Option (Nat × Nat) :=
  let runs := (List.range ns.length).map fun i => (i, zeroRun (ns.drop i))
  let best := runs.foldl (fun b r => if b.2 < r.2 then r else b) (0, 1)
  if 1 < best.2 then some best else none

def writeIpv6 (ns : List Nat) : List Char :=
  let join (ns : List Nat) := [':'].intercalate (ns.map (Nat.toDigits 16))
  match longestRun ns with
  | some (i, n) => join (ns.take i) ++ [':', ':'] ++ join (ns.drop (i + n))
  | none => join ns

/-! Reading and writing hosts. -/

def readBracketed (cs : List Char) : Except UrlError Host :=
  if cs.getLast? == some ']' then
    match readIpv6 cs.tail.dropLast with
    | some ns => .ok (.ipv6 ns)
    | none => .error .invalidIpv6
  else .error .invalidIpv6

def readDomain (cs : List Char) : Except UrlError Host :=
  if cs.head? == some '[' then readBracketed cs
  else
    match Utf8.decode (decodeOctets cs) with
    | .error _ => .error .invalidDomain
    | .ok name =>
      match plainDomain? name with
      | none => .error .invalidDomain
      | some name =>
        if name.isEmpty then .error .emptyHost
        else if endsInNumber name then
          match readIpv4 name with
          | some n => .ok (.ipv4 n)
          | none => .error .invalidIpv4
        else .ok (.named name)

def readFree (cs : List Char) : Except UrlError Host :=
  if cs.head? == some '[' then readBracketed cs
  else if cs.any ("\x00\t\n\r #/:<>?@[\\]^|".toList.contains ·) then .error .invalidHostCharacter
  else .ok (.named (encode .host cs))

def chars : Host → List Char
  | named cs => cs
  | ipv4 n => writeIpv4 n
  | ipv6 ns => '[' :: writeIpv6 ns ++ [']']

end Host
end Url
end LinkShelf
