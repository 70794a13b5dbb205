import LinkShelf.Text.Digits
import LinkShelf.Text.White
import LinkShelf.Time.Error
import LinkShelf.Time.Instant

/-! The parts of a written time that both readers share. Each part is read from the front of a text
and leaves the rest. -/
namespace LinkShelf
namespace Time

def readMark (mark : Char) : List Char → Except TimeError (List Char)
  | [] => .error .tooShort
  | c :: rest => if c = mark then .ok rest else .error .invalid

def readNumber (most : Nat) : List Char → Except TimeError (Nat × List Char)
  | [] => .error .tooShort
  | c :: cs =>
    if c.isDigit then
      let (ds, rest) := Text.splitDigits most (c :: cs)
      .ok (Text.digitsValue ds, rest)
    else .error .invalid

/-- The digits behind a decimal point as nanoseconds; those after the ninth are skipped. -/
def readNanos (cs : List Char) : Except TimeError (Nat × List Char) :=
  match cs with
  | [] => .error .tooShort
  | c :: _ =>
    if c.isDigit then
      let (ds, rest) := Text.splitDigits 9 cs
      let filled := ds ++ List.replicate (9 - ds.length) '0'
      .ok (Text.digitsValue filled, rest.dropWhile Char.isDigit)
    else .error .invalid

def readFraction : List Char → Except TimeError (Nat × List Char)
  | '.' :: rest => readNanos rest
  | rest => .ok (0, rest)

/-- The hours and minutes of an offset, in seconds; `separator` reads what stands between them. -/
def readOffsetClock (separator : List Char → Except TimeError (List Char)) (cs : List Char) :
    Except TimeError (Nat × List Char) := do
  match cs with
  | h₁ :: h₂ :: rest =>
    if h₁.isDigit && h₂.isDigit then
      match ← separator rest with
      | m₁ :: m₂ :: rest =>
        if m₁.isDigit && m₂.isDigit then
          if m₁ ≤ '5' then
            .ok (Text.digitsValue [h₁, h₂] * 3600 + Text.digitsValue [m₁, m₂] * 60, rest)
          else .error .outOfRange
        else .error .invalid
      | [m] => if m.utf8Size < 2 then .error .tooShort else .error .invalid
      | [] => .error .tooShort
    else .error .invalid
  | [h] => if h.utf8Size < 2 then .error .tooShort else .error .invalid
  | [] => .error .tooShort

/-- The zone: a letter for UTC, or a sign with hours and minutes; in seconds. -/
def readZone (separator : List Char → Except TimeError (List Char)) :
    List Char → Except TimeError (Int × List Char)
  | [] => .error .tooShort
  | c :: rest =>
    if c = 'Z' ∨ c = 'z' then .ok (0, rest)
    else if c = '+' then (readOffsetClock separator rest).map fun (n, rest) => ((n : Int), rest)
    else if c = '-' ∨ c = '−' then
      (readOffsetClock separator rest).map fun (n, rest) => (-(n : Int), rest)
    else .error .invalid

structure Clock where
  hour : Nat
  minute : Nat
  second : Nat
  nano : Nat
  deriving DecidableEq, Repr

namespace Clock

def exists? (c : Clock) : Bool := c.hour < 24 && c.minute < 60 && c.second ≤ 60

/-- The second of the day, which a leap second shares with the second before it. -/
def secondOfDay (c : Clock) : Nat := c.hour * 3600 + c.minute * 60 + min c.second 59

def nanos (c : Clock) : Nat := c.nano + if c.second = 60 then 1000000000 else 0

end Clock

/-- An offset is less than a day, and the instant must be one that can be told. -/
def toInstant (date : Date) (clock : Clock) (offset : Int) : Except TimeError Instant :=
  if offset.natAbs < 86400 then
    match Instant.ofLocal? date clock.secondOfDay clock.nanos offset with
    | some t => .ok t
    | none => .error .impossible
  else .error .outOfRange

end Time
end LinkShelf
