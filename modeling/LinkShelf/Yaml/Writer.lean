import LinkShelf.Text.Case
import LinkShelf.Yaml.Node

/-! Writing a text as the value of a key. A plain scalar is preferred, then one in single quotes;
line feeds ask for a literal block, and what no other form can hold is written in double quotes. -/
namespace LinkShelf
namespace Yaml

inductive Form where
  | plain
  | single
  | double
  | literal
  deriving DecidableEq, Repr

def hasPair (p q : Char → Bool) : List Char → Bool
  | a :: b :: cs => (p a && q b) || hasPair p q (b :: cs)
  | _ => false

/-- Whether a text begins like something else than a plain scalar. -/
def startsWithMark : List Char → Bool
  | [] => false
  | c :: cs =>
    "#,[]\x7b\x7d&*!|>'\"%@`".contains c || ((c == '-' || c == '?' || c == ':') && endsWord cs)
      || ['-', '-', '-'].isPrefixOf (c :: cs) || ['.', '.', '.'].isPrefixOf (c :: cs)

/-- Whether a colon ends a word, or a number sign begins one, behind the first character. -/
def hasInnerMark : List Char → Bool
  | a :: b :: cs =>
    (b == ':' && endsWord cs) || (b == '#' && isSpacing a) || hasInnerMark (b :: cs)
  | _ => false

/-- What only double quotes can hold. -/
def needsDouble (cs : List Char) : Bool :=
  cs.any (!isPrintable ·) || hasPair (· == ' ') isBreak cs

def plainAllowed (cs : List Char) : Bool :=
  !needsDouble cs && !cs.any isBreak && cs.head? != some ' ' && cs.getLast? != some ' ' &&
    !startsWithMark cs && !hasInnerMark cs

def singleAllowed (cs : List Char) : Bool := !needsDouble cs && !hasPair isBreak (· == ' ') cs

def literalAllowed (cs : List Char) : Bool := !needsDouble cs && cs.getLast? != some ' '

/-- Words that stand for something else than text in some version of the format. -/
def reservedWords : List String :=
  ["", "~", "null", "true", "false", "y", "yes", "n", "no", "on", "off"]

/-- Whether a text may be taken for a number, a truth value or nothing, and so is put in quotes. -/
def isAmbiguous (s : String) : Bool :=
  reservedWords.contains (Text.lower s) ||
    s.toList.head?.any fun c => c.isDigit || c == '-' || c == '+' || c == '.'

def form (s : String) : Form :=
  let cs := s.toList
  let quoted := if singleAllowed cs then .single else .double
  if cs.contains '\n' then if literalAllowed cs then .literal else .double
  else if isAmbiguous s || !plainAllowed cs then quoted
  else .plain

def margin : List Char := [' ', ' ']

/-- The text with a margin at the start of each line that is not empty. A quote is written twice,
and so is the first of some line feeds. -/
def singleFrom (broken : Bool) : List Char → List Char
  | [] => if broken then margin else []
  | c :: cs =>
    if isBreak c then (if c == '\n' && !broken then ['\n', '\n'] else [c]) ++ singleFrom true cs
    else
      (if broken then margin else []) ++ (if c == '\'' then ['\'', '\''] else [c]) ++
        singleFrom false cs

def upperHex (width n : Nat) : List Char :=
  let ds := (Nat.toDigits 16 n).map Char.toUpper
  List.replicate (width - ds.length) '0' ++ ds

def doubleChar (c : Char) : List Char :=
  if c == '\x00' then ['\\', '0']
  else if c == '\x07' then ['\\', 'a']
  else if c == '\x08' then ['\\', 'b']
  else if c == '\t' then ['\\', 't']
  else if c == '\n' then ['\\', 'n']
  else if c == '\x0b' then ['\\', 'v']
  else if c == '\x0c' then ['\\', 'f']
  else if c == '\r' then ['\\', 'r']
  else if c == '\x1b' then ['\\', 'e']
  else if c == '"' then ['\\', '"']
  else if c == '\\' then ['\\', '\\']
  else if c == '\u0085' then ['\\', 'N']
  else if c == '\u2028' then ['\\', 'L']
  else if c == '\u2029' then ['\\', 'P']
  else if isPrintable c then [c]
  else if c.toNat ≤ 0xff then '\\' :: 'x' :: upperHex 2 c.toNat
  else if c.toNat ≤ 0xffff then '\\' :: 'u' :: upperHex 4 c.toNat
  else '\\' :: 'U' :: upperHex 8 c.toNat

/-- The lines of a block, each with a margin unless it is empty. -/
def linesFrom (broken : Bool) : List Char → List Char
  | [] => []
  | c :: cs =>
    if isBreak c then c :: linesFrom true cs
    else (if broken then margin else []) ++ c :: linesFrom false cs

/-- How the header of a block tells what is kept of the breaks at its end. -/
def chompMark (cs : List Char) : List Char :=
  match cs.reverse with
  | [] => ['-']
  | [c] => if isBreak c then ['+'] else ['-']
  | c :: d :: _ => if !isBreak c then ['-'] else if isBreak d then ['+'] else []

/-- The header of a block; it gives the indentation if the first line does not show it. -/
def header (cs : List Char) : List Char :=
  '|' :: (if cs.head?.any fun c => c == ' ' || isBreak c then ['2'] else []) ++ chompMark cs

/-- A text behind a key and a space, with the end of its last line. -/
def writeText (s : String) : List Char :=
  let cs := s.toList
  match form s with
  | .plain => cs ++ ['\n']
  | .single => '\'' :: singleFrom false cs ++ ['\'', '\n']
  | .double => '"' :: cs.flatMap doubleChar ++ ['"', '\n']
  | .literal =>
    header cs ++ '\n' :: linesFrom true cs ++ (if cs.getLast?.any isBreak then [] else ['\n'])

end Yaml
end LinkShelf
