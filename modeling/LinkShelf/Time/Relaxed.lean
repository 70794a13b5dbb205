import LinkShelf.Time.Strict

/-! Reading a time with white space between its parts, short fields and signed years. -/
namespace LinkShelf
namespace Time

def skipWhite (cs : List Char) : List Char := cs.dropWhile Text.isWhite

def readField (least most : Nat) (cs : List Char) : Except TimeError (Nat × List Char) := do
  let (n, rest) ← readNumber 2 (skipWhite cs)
  if least ≤ n ∧ n ≤ most then .ok (n, rest) else .error .outOfRange

/-- A year of at most four digits, or a sign and any number of digits. -/
def readYear (cs : List Char) : Except TimeError (Int × List Char) := do
  let (year, rest) ← match skipWhite cs with
    | '-' :: rest => (readNumber rest.length rest).map fun (n, rest) => (-(n : Int), rest)
    | '+' :: rest => (readNumber rest.length rest).map fun (n, rest) => ((n : Int), rest)
    | rest => (readNumber 4 rest).map fun (n, rest) => ((n : Int), rest)
  if -2147483648 ≤ year ∧ year < 2147483648 then .ok (year, rest) else .error .outOfRange

def readSpacedMark (mark : Char) (cs : List Char) : Except TimeError (List Char) :=
  readMark mark (skipWhite cs)

def readRelaxedDate (cs : List Char) : Except TimeError (Date × List Char) := do
  let (year, cs) ← readYear cs
  let cs ← readSpacedMark '-' cs
  let (month, cs) ← readField 1 12 cs
  let cs ← readSpacedMark '-' cs
  let (day, cs) ← readField 1 31 cs
  .ok (⟨year, month, day⟩, cs)

def readRelaxedClock (cs : List Char) : Except TimeError (Clock × List Char) := do
  let (hour, cs) ← readField 0 23 cs
  let cs ← readSpacedMark ':' cs
  let (minute, cs) ← readField 0 59 cs
  let cs ← readSpacedMark ':' cs
  let (second, cs) ← readField 0 60 cs
  let (nano, cs) ← readFraction cs
  .ok (⟨hour, minute, second, nano⟩, cs)

/-- The letters `UTC` in any case, or a zone whose colon may be missing or spaced. -/
def readRelaxedZone (cs : List Char) : Except TimeError (Int × List Char) :=
  match cs with
  | u :: t :: c :: rest =>
    if u.toUpper = 'U' ∧ t.toUpper = 'T' ∧ c.toUpper = 'C' then .ok (0, rest) else readZone skip cs
  | _ => readZone skip cs
where
  skip (cs : List Char) : Except TimeError (List Char) :=
    .ok (cs.dropWhile fun c => c = ':' || Text.isWhite c)

def readRelaxed (s : String) : Except TimeError Instant := do
  let (date, cs) ← readRelaxedDate s.toList
  let cs ← readSeparator cs
  let (clock, cs) ← readRelaxedClock cs
  let (offset, cs) ← readRelaxedZone (skipWhite cs)
  if !(skipWhite cs).isEmpty then throw .tooLong
  if !date.exists? || date.year < -262143 || 262142 < date.year then throw .outOfRange
  toInstant date clock offset

end Time
end LinkShelf
