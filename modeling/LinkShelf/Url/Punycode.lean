/-! Names with any characters, written with letters, digits and hyphens: the plain characters come
first, and the others follow as numbers that tell where the next one is to be put. -/
namespace LinkShelf
namespace Url
namespace Punycode

def digitChar (d : Nat) : Char :=
  if d < 26 then Char.ofNat ('a'.toNat + d) else Char.ofNat ('0'.toNat + (d - 26))

def digitValue? (c : Char) : Option Nat :=
  if 'a' ≤ c && c ≤ 'z' then some (c.toNat - 'a'.toNat)
  else if 'A' ≤ c && c ≤ 'Z' then some (c.toNat - 'A'.toNat)
  else if '0' ≤ c && c ≤ '9' then some (c.toNat - '0'.toNat + 26)
  else none

/-- The least digit value that does not end a number, at a place that grows by 36 a digit. -/
def threshold (bias place : Nat) : Nat := min (max (place - bias) 1) 26

theorem threshold_pos (bias place : Nat) : 0 < threshold bias place := by
  simp only [threshold]; omega

/-- Divides a number until it is small; the count of divisions is returned with it. -/
def shrink (n count : Nat) : Nat × Nat :=
  if 455 < n then shrink (n / 35) (count + 1) else (n, count)
termination_by n
decreasing_by exact Nat.div_lt_self (by omega) (by omega)

/-- The bias for the next number, from the last one and how many characters there are. -/
def adapt (delta size : Nat) (first : Bool) : Nat :=
  let delta := if first then delta / 700 else delta / 2
  let (n, count) := shrink (delta + delta / size) 0
  36 * count + 36 * n / (n + 38)

def writeNumber (bias place n : Nat) : List Char :=
  let t := threshold bias place
  if n < t then [digitChar n]
  else
    digitChar (t + (n - t) % (36 - t)) :: writeNumber bias (place + 36) ((n - t) / (36 - t))
termination_by n
decreasing_by
  have h := threshold_pos bias place
  calc
    (n - threshold bias place) / (36 - threshold bias place) ≤ n - threshold bias place :=
      Nat.div_le_self _ _
    _ < n := by omega

def readNumber (bias : Nat) : (place weight n : Nat) → List Char → Option (Nat × List Char)
  | _, _, _, [] => none
  | place, weight, n, c :: cs => do
    let d ← digitValue? c
    let t := threshold bias place
    if d < t then some (n + d * weight, cs)
    else readNumber bias (place + 36) (weight * (36 - t)) (n + d * weight) cs

def isPlain (c : Char) : Bool := c.toNat < 128

/-- What is kept between two characters that are written: how many are out, the steps since the
last one, and the bias. -/
structure Progress where
  size : Nat
  delta : Nat := 0
  bias : Nat := 72
  first : Bool := true

/-- Goes once through the name and writes the places of the character `n`. -/
def writePlaces (n : Nat) : Progress → List Char → List Char × Progress
  | p, [] => ([], p)
  | p, c :: cs =>
    if c.toNat < n then writePlaces n { p with delta := p.delta + 1 } cs
    else if c.toNat = n then
      let bias := adapt p.delta (p.size + 1) p.first
      let (out, q) := writePlaces n { size := p.size + 1, bias, first := false } cs
      (writeNumber p.bias 36 p.delta ++ out, q)
    else writePlaces n p cs

def writeRest (name : List Char) (next : Nat) (p : Progress) : List Nat → List Char
  | [] => []
  | n :: ns =>
    let p := { p with delta := p.delta + (n - next) * (p.size + 1) }
    let (out, p) := writePlaces n p name
    out ++ writeRest name (n + 1) { p with delta := p.delta + 1 } ns

def encode (name : List Char) : List Char :=
  let plain := name.filter isPlain
  let others := ((name.filter (!isPlain ·)).map Char.toNat).mergeSort.eraseDups
  plain ++ (if plain.isEmpty then [] else ['-']) ++
    writeRest name 128 { size := plain.length } others

/-- Puts the characters that are read into the name. `n` is the last one, and `i` the place behind
it. -/
def readRest : (fuel : Nat) → (bias n i : Nat) → (name : List Char) → List Char →
    Option (List Char)
  | 0, _, _, _, _, _ => none
  | _ + 1, _, _, _, name, [] => some name
  | fuel + 1, bias, n, i, name, c :: cs => do
    let (k, rest) ← readNumber bias 36 1 i (c :: cs)
    let size := name.length + 1
    let n := n + k / size
    if n.isValidChar then
      readRest fuel (adapt (k - i) size (name.all isPlain)) n (k % size + 1)
        (name.insertIdx (k % size) (Char.ofNat n)) rest
    else none

def splitLast (cs : List Char) : List Char × List Char :=
  let tail := (cs.reverse.takeWhile (· != '-')).reverse
  (cs.take (cs.length - tail.length - 1), tail)

def decode (cs : List Char) : Option (List Char) :=
  let (plain, rest) := splitLast cs
  if plain.all isPlain then readRest (rest.length + 1) 72 128 0 plain rest else none

end Punycode
end Url
end LinkShelf
