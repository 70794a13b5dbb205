/-! Numbers with a 53 bit significand: the one nearest to a decimal, and the shortest decimal that
is nearest to one. -/
namespace LinkShelf
namespace Decimal

/-- The number `significand * 2 ^ exponent`. -/
structure Double where
  significand : Nat
  exponent : Int
  deriving DecidableEq, Repr

def leastSignificand : Nat := 1 <<< 52

def tenTo (n : Nat) : Nat := Nat.pow 10 n

def roundDiv (num den : Nat) : Nat :=
  let q := num / den
  let r := num % den
  if 2 * r < den then q else if den < 2 * r then q + 1 else q + q % 2

/-- The fraction `num * 2 ^ -e / den` as a pair of naturals. -/
def scale (num den : Nat) (e : Int) : Nat × Nat :=
  if e < 0 then (num <<< e.natAbs, den) else (num, den <<< e.natAbs)

def Double.nearest (num den : Nat) : Double :=
  let guess : Int := (Nat.log2 num : Int) - Nat.log2 den
  let log := if num <<< (-guess).toNat < den <<< guess.toNat then guess - 1 else guess
  let e := max (-1074) (log - 52)
  let (n, d) := scale num den e
  ⟨roundDiv n d, e⟩

/-- The fraction that is a number and the half widths below and above in which all others round to
it, over one denominator. -/
structure Interval where
  value : Nat
  below : Nat
  above : Nat
  unit : Nat
  closed : Bool

def Double.interval (x : Double) : Interval :=
  let up := 1 <<< x.exponent.toNat
  let down := 1 <<< (-x.exponent).toNat
  { value := 4 * x.significand * up
    below := if x.significand = leastSignificand ∧ x.exponent ≠ -1074 then up else 2 * up
    above := 2 * up
    unit := 4 * down
    closed := x.significand % 2 = 0 }

def Interval.holds (i : Interval) (a b : Nat) : Bool :=
  let low := (i.value - i.below) * b
  let high := (i.value + i.above) * b
  if i.closed then low ≤ a * i.unit && a * i.unit ≤ high else low < a * i.unit && a * i.unit < high

/-- The multiple of `10 ^ e` in the interval that is nearest to its value, if there is one. -/
def Interval.onGrid (i : Interval) (e : Int) : Option Nat :=
  let num := tenTo e.toNat
  let den := tenTo (-e).toNat
  let n := i.value * den / (i.unit * num)
  let distance (n : Nat) : Nat := ((n * num * i.unit : Int) - i.value * den).natAbs
  match i.holds (n * num) den, i.holds ((n + 1) * num) den with
  | true, true => some (if distance (n + 1) < distance n then n + 1 else n)
  | true, false => some n
  | false, true => some (n + 1)
  | false, false => none

/-- The coarsest grid with a hit, from `10 ^ e` down in at most `fuel` steps: digits, exponent. -/
def Interval.shortest (i : Interval) : (fuel : Nat) → Int → Nat × Int
  | 0, e => (0, e)
  | fuel + 1, e =>
    match i.onGrid e with
    | some n => if 0 < n then (n, e) else i.shortest fuel (e - 1)
    | none => i.shortest fuel (e - 1)

/-- Digits and exponent in writing: positional from 10^-5 up to 10^16, scientific elsewhere. -/
def layout (digits : List Char) (e : Int) : List Char :=
  let point : Int := digits.length + e
  if 0 ≤ e ∧ point ≤ 16 then digits ++ List.replicate e.toNat '0' ++ ['.', '0']
  else if 0 < point ∧ point ≤ 16 then
    digits.take point.toNat ++ '.' :: digits.drop point.toNat
  else if -5 < point ∧ point ≤ 0 then
    ['0', '.'] ++ List.replicate (-point).toNat '0' ++ digits
  else
    let power := (if point - 1 < 0 then ['-'] else []) ++ Nat.toDigits 10 (point - 1).natAbs
    match digits with
    | [d] => d :: 'e' :: power
    | d :: ds => d :: '.' :: ds ++ 'e' :: power
    | [] => []

/-- The shortest text for the double nearest to `digits * 10 ^ e`. -/
def doubleText (negative : Bool) (digits : Nat) (e : Int) : List Char :=
  let sign := if negative then ['-'] else []
  let x := Double.nearest (digits * tenTo e.toNat) (tenTo (-e).toNat)
  if digits = 0 ∨ x.significand = 0 then sign ++ ['0', '.', '0']
  else
    let i := x.interval
    let top : Int := (Nat.toDigits 10 (i.value / i.unit)).length
    let (n, e) := i.shortest 400 top
    sign ++ layout (Nat.toDigits 10 n) e

end Decimal
end LinkShelf
