import LinkShelf.Text.Digits
import LinkShelf.Time.Instant

/-! Times in writing: date and time of day, the fraction in 0, 3, 6 or 9 digits, and the zone. -/
namespace LinkShelf
namespace Time

/-- Four digits; years outside 0 to 9999 have a sign. -/
def yearText (y : Int) : List Char :=
  if 0 ≤ y ∧ y ≤ 9999 then Text.padded 4 y.toNat
  else (if y < 0 then '-' else '+') :: Text.padded 4 y.natAbs

/-- The fewest groups of three digits that are exact. -/
def fractionText (nano : Nat) : List Char :=
  if nano = 0 then []
  else if nano % 1000000 = 0 then '.' :: Text.padded 3 (nano / 1000000)
  else if nano % 1000 = 0 then '.' :: Text.padded 6 (nano / 1000)
  else '.' :: Text.padded 9 nano

def Date.text (d : Date) : List Char :=
  yearText d.year ++ '-' :: Text.padded 2 d.month ++ '-' :: Text.padded 2 d.day

/-- The time of day; what lies behind a second counts into the next one, the last of a minute has 60. -/
def clockText (second nano : Nat) : List Char :=
  Text.padded 2 (second / 3600) ++ ':' :: Text.padded 2 (second / 60 % 60) ++ ':' ::
    Text.padded 2 (second % 60 + nano / 1000000000) ++ fractionText (nano % 1000000000)

namespace Moment

def chars (t : Moment) (zone : List Char) : List Char :=
  (Date.ofDay t.day).text ++ 'T' :: clockText t.second t.nano ++ zone

def textZ (t : Moment) : String := String.ofList (t.chars ['Z'])

def textOffset (t : Moment) : String := String.ofList (t.chars "+00:00".toList)

end Moment
end Time
end LinkShelf
