import LinkShelf.Text.Digits

/-! Reading a number below 2^64: digits only, with an optional plus sign. -/
namespace LinkShelf
namespace Text

inductive NumberError where
  | empty
  | invalidDigit
  | tooLarge
  deriving DecidableEq, Repr

def NumberError.message : NumberError → String
  | empty => "cannot parse integer from empty string"
  | invalidDigit => "invalid digit found in string"
  | tooLarge => "number too large to fit in target type"

/-- Digits that continue a number read so far. The first fault from the left counts. -/
def readDigitsFrom (n : Nat) : List Char → Except NumberError Nat
  | [] => .ok n
  | c :: cs =>
    if c.isDigit then
      let n := 10 * n + (c.toNat - '0'.toNat)
      if n < UInt64.size then readDigitsFrom n cs else .error .tooLarge
    else .error .invalidDigit

def readUInt64 (s : String) : Except NumberError UInt64 :=
  match s.toList with
  | [] => .error .empty
  | ['+'] => .error .invalidDigit
  | '+' :: cs => (readDigitsFrom 0 cs).map UInt64.ofNat
  | cs => (readDigitsFrom 0 cs).map UInt64.ofNat

end Text
end LinkShelf
