import LinkShelf.Text.Word

/-! The tokens of a search string, and the scan that finds them.

A word is a run of characters between white space. Quotes and escapes make characters literal and
leave no trace in the word but that mark. A word without literal characters may be a tag, and a
qualifier name in front of a colon ends a word as well. -/
namespace LinkShelf
namespace Query

/-- The names that may stand in front of a colon. -/
inductive Qualifier where
  | url
  deriving DecidableEq, Repr

namespace Qualifier

def name : Qualifier → String
  | url => "url"

def all : List Qualifier := [url]

def ofName? (s : String) : Option Qualifier := all.find? (·.name == s)

@[simp] theorem ofName?_name (q : Qualifier) : ofName? q.name = some q := by cases q; decide

end Qualifier

inductive TokenKind where
  | text (value : String)
  | qualifier (q : Qualifier)
  | tag (name : String)
  | not
  | endOfQuery
  deriving DecidableEq, Repr

def TokenKind.name : TokenKind → String
  | text _ => "Text"
  | qualifier _ => "Qualifier"
  | tag _ => "Tag"
  | not => "Not"
  | endOfQuery => "EndOfQuery"

structure Token where
  kind : TokenKind
  position : Nat
  deriving DecidableEq, Repr

/-- The word that is being read: its characters, where it starts, and whether one is literal. -/
structure Word where
  letters : List Char := []
  start : Option Nat := none
  literal : Bool := false
  deriving DecidableEq, Repr

namespace Word

/-- Marks the start, unless the word has one. -/
def beginAt (w : Word) (i : Nat) : Word := { w with start := some (w.start.getD i) }

def push (w : Word) (i : Nat) (c : Char) (literal : Bool) : Word :=
  { letters := w.letters ++ [c], start := some (w.start.getD i), literal := w.literal || literal }

/-- `#name` or `-#name`, with whether it is negated. -/
def readTag : List Char → Option (Bool × List Char)
  | '-' :: '#' :: name =>
    if !name.isEmpty && name.all Text.isWordChar then some (true, name) else none
  | '#' :: name => if !name.isEmpty && name.all Text.isWordChar then some (false, name) else none
  | _ => none

/-- The tokens of a finished word: none if it is empty, one or two if it is a tag, else its text. -/
def tokens (w : Word) : List Token :=
  let i := w.start.getD 0
  if w.letters.isEmpty then []
  else
    match if w.literal then none else readTag w.letters with
    | some (true, name) => [⟨.not, i⟩, ⟨.tag (String.ofList name), i + 1⟩]
    | some (false, name) => [⟨.tag (String.ofList name), i⟩]
    | none => [⟨.text (String.ofList w.letters), i⟩]

@[simp] theorem tokens_empty : ({} : Word).tokens = [] := rfl

end Word

/-- The state of the scan between two characters. -/
structure Scan where
  word : Word := {}
  quoted : Bool := false
  escaped : Bool := false
  deriving DecidableEq, Repr

namespace Scan

/-- Reads the character with index `i`: the tokens that it completes, and the state after it. -/
def step (s : Scan) (i : Nat) (c : Char) : List Token × Scan :=
  if s.escaped then ([], { s with word := s.word.push i c true, escaped := false })
  else if c = '\\' then ([], { s with escaped := true })
  else if c = '"' then
    ([], if s.quoted then { s with quoted := false }
      else { s with word := s.word.beginAt i, quoted := true })
  else if s.quoted then ([], { s with word := s.word.push i c true })
  else if c = ':' ∧ s.word.literal = false then
    match Qualifier.ofName? (String.ofList s.word.letters) with
    | some q => ([⟨.qualifier q, s.word.start.getD i⟩], { s with word := {} })
    | none => ([], { s with word := s.word.push i c false })
  else if Text.isWhite c then (s.word.tokens, { s with word := {} })
  else ([], { s with word := s.word.push i c false })

def run (s : Scan) (i : Nat) : List Char → List Token × Scan
  | [] => ([], s)
  | c :: cs =>
    let (ts, s) := s.step i c
    let (rest, s) := s.run (i + 1) cs
    (ts ++ rest, s)

end Scan

/-- The tokens of a search string. Every string has some: an open quote and an escape with nothing
after it end with the string. -/
def tokenize (input : String) : List Token :=
  let (ts, s) := Scan.run {} 0 input.toList
  ts ++ s.word.tokens ++ [⟨.endOfQuery, input.length + 1⟩]

end Query
end LinkShelf
