import LinkShelf.Json.Basic

/-! The two layouts of a JSON text: one line without blanks, and one entry a line. -/
namespace LinkShelf
namespace Json

def hexDigit (n : Nat) : Char := Nat.digitChar n

/-- One character of a string. Only the quote, the backslash and the controls are escaped. -/
def escapeChar (c : Char) : List Char :=
  if c = '"' then ['\\', '"']
  else if c = '\\' then ['\\', '\\']
  else if c = '\x08' then ['\\', 'b']
  else if c = '\x0c' then ['\\', 'f']
  else if c = '\n' then ['\\', 'n']
  else if c = '\r' then ['\\', 'r']
  else if c = '\t' then ['\\', 't']
  else if c.toNat < 0x20 then
    ['\\', 'u', '0', '0', hexDigit (c.toNat / 16), hexDigit (c.toNat % 16)]
  else [c]

def printString (s : String) : List Char := '"' :: s.toList.flatMap escapeChar ++ ['"']

def printNumber : Number → List Char
  | .whole negative n => (if negative then ['-'] else []) ++ Nat.toDigits 10 n
  | .real negative n e =>
    (if negative then ['-'] else []) ++ Nat.toDigits 10 n ++ ['e'] ++
      (if e < 0 then ['-'] else []) ++ Nat.toDigits 10 e.natAbs

def commas : List (List Char) → List Char
  | [] => []
  | [x] => x
  | x :: y :: xs => x ++ ',' :: commas (y :: xs)

mutual

def print : Json → List Char
  | null => "null".toList
  | bool b => (if b then "true" else "false").toList
  | number n => printNumber n
  | string s => printString s
  | array items => '[' :: commas (printItems items) ++ [']']
  | object fields => '\x7b' :: commas (printFields fields) ++ ['\x7d']

def printItems : List Json → List (List Char)
  | [] => []
  | x :: xs => print x :: printItems xs

def printFields : List (String × Json) → List (List Char)
  | [] => []
  | (k, x) :: xs => (printString k ++ ':' :: print x) :: printFields xs

end

def compact (j : Json) : String := String.ofList (print j)

def newLine (level : Nat) : List Char := '\n' :: List.replicate (2 * level) ' '

mutual

def printPretty (level : Nat) : Json → List Char
  | array [] => ['[', ']']
  | array (x :: xs) =>
    '[' :: newLine (level + 1) ++ printPretty (level + 1) x ++ prettyItems level xs ++
      newLine level ++ [']']
  | object [] => ['\x7b', '\x7d']
  | object ((k, x) :: xs) =>
    '\x7b' :: newLine (level + 1) ++ printString k ++ [':', ' '] ++ printPretty (level + 1) x ++
      prettyFields level xs ++ newLine level ++ ['\x7d']
  | null => "null".toList
  | bool b => (if b then "true" else "false").toList
  | number n => printNumber n
  | string s => printString s

def prettyItems (level : Nat) : List Json → List Char
  | [] => []
  | x :: xs => ',' :: newLine (level + 1) ++ printPretty (level + 1) x ++ prettyItems level xs

def prettyFields (level : Nat) : List (String × Json) → List Char
  | [] => []
  | (k, x) :: xs =>
    ',' :: newLine (level + 1) ++ printString k ++ [':', ' '] ++ printPretty (level + 1) x ++
      prettyFields level xs

end

/-- The text with one entry a line, indented by two blanks a level. -/
def pretty (j : Json) : String := String.ofList (printPretty 0 j)

end Json
end LinkShelf
