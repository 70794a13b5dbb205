import LinkShelf.Time.Fields

/-! Reading a time whose parts have their full width and nothing around them. -/
namespace LinkShelf
namespace Time

def takeDigits : (n : Nat) → List Char → Except TimeError (List Char × List Char)
  | 0, cs => .ok ([], cs)
  | _ + 1, [] => .error .tooShort
  | n + 1, c :: cs =>
    if c.isDigit then (takeDigits n cs).map fun (ds, rest) => (c :: ds, rest)
    else .error .invalid

def readDigits (n : Nat) (cs : List Char) : Except TimeError (Nat × List Char) :=
  (takeDigits n cs).map fun (ds, rest) => (Text.digitsValue ds, rest)

def readDate (cs : List Char) : Except TimeError (Date × List Char) := do
  let (year, cs) ← readDigits 4 cs
  let cs ← readMark '-' cs
  let (month, cs) ← readDigits 2 cs
  let cs ← readMark '-' cs
  let (day, cs) ← readDigits 2 cs
  let date : Date := ⟨year, month, day⟩
  if date.exists? then .ok (date, cs) else .error .outOfRange

def readClock (cs : List Char) : Except TimeError (Clock × List Char) := do
  let (hour, cs) ← readDigits 2 cs
  let cs ← readMark ':' cs
  let (minute, cs) ← readDigits 2 cs
  let cs ← readMark ':' cs
  let (second, cs) ← readDigits 2 cs
  let (nano, cs) ← readFraction cs
  let clock : Clock := ⟨hour, minute, second, nano⟩
  if clock.exists? then .ok (clock, cs) else .error .outOfRange

def readSeparator : List Char → Except TimeError (List Char)
  | [] => .error .tooShort
  | c :: rest => if c = 'T' ∨ c = 't' ∨ c = ' ' then .ok rest else .error .invalid

/-- Date, mark, time of day and zone. A text too short for date and time is not looked at. -/
def readStrict (s : String) : Except TimeError Instant := do
  if s.utf8ByteSize < 19 then throw .tooShort
  let (date, cs) ← readDate s.toList
  let cs ← readSeparator cs
  let (clock, cs) ← readClock cs
  let (offset, cs) ← readZone (readMark ':') cs
  if cs.isEmpty then toInstant date clock offset else throw .tooLong

end Time
end LinkShelf
