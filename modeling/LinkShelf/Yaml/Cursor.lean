import LinkShelf.Yaml.Chars

/-! A place in a text, and the steps that read on from it. -/
namespace LinkShelf
namespace Yaml

/-- What is left to read, and where it starts. -/
structure Cursor where
  rest : List Char
  index : Nat := 0
  line : Nat := 0
  column : Nat := 0
  deriving DecidableEq, Repr

namespace Cursor

def skip (c : Cursor) (n : Nat) : Cursor :=
  { c with rest := c.rest.drop n, index := c.index + n, column := c.column + n }

def span (c : Cursor) (p : Char → Bool) : List Char × Cursor :=
  (c.rest.takeWhile p, c.skip (c.rest.takeWhile p).length)

def skipWhile (c : Cursor) (p : Char → Bool) : Cursor := (c.span p).2

/-- Reads a break: what it stands for, and the place behind it. -/
def readBreak (c : Cursor) : List Char × Cursor :=
  match c.rest with
  | '\r' :: '\n' :: rest => (['\n'], ⟨rest, c.index + 2, c.line + 1, 0⟩)
  | x :: rest =>
    if isBreak x then
      ([if x == '\u2028' || x == '\u2029' then x else '\n'], ⟨rest, c.index + 1, c.line + 1, 0⟩)
    else ([], c)
  | [] => ([], c)

def skipBreak (c : Cursor) : Cursor := c.readBreak.2

def atBreak (c : Cursor) : Bool :=
  match c.rest with
  | x :: _ => isBreak x
  | [] => false

/-- Whether the line starts here with three of the mark and nothing more in the word. -/
def atMark (c : Cursor) (mark : Char) : Bool :=
  match c.column, c.rest with
  | 0, a :: b :: d :: rest => a == mark && b == mark && d == mark && endsWord rest
  | _, _ => false

def atDocumentMark (c : Cursor) : Bool := c.atMark '-' || c.atMark '.'

end Cursor

/-- Blanks and breaks between two words of a scalar: the blanks before the first break, the first
break, and the breaks behind it. -/
structure Gap where
  blanks : List Char := []
  first : List Char := []
  more : List Char := []
  broken : Bool := false
  deriving DecidableEq, Repr

namespace Gap

/-- What a gap stands for: the blanks, or the breaks with a single line feed made a space. -/
def text (g : Gap) : List Char :=
  if g.broken then
    if g.first = ['\n'] then (if g.more.isEmpty then [' '] else g.more) else g.first ++ g.more
  else g.blanks

def addBlank (g : Gap) (c : Char) : Gap :=
  if g.broken then g else { g with blanks := g.blanks ++ [c] }

def addBreak (g : Gap) (b : List Char) : Gap :=
  if g.broken then { g with more := g.more ++ b }
  else { g with blanks := [], first := b, broken := true }

end Gap

/-- Reads the blanks and breaks at a place, in at most `fuel` steps. Behind a break a tab must not
stand left of `indent`. -/
def Cursor.readGap (indent : Int) : (fuel : Nat) → Gap → Cursor → Option (Gap × Cursor)
  | 0, _, _ => none
  | fuel + 1, g, c =>
    match c.rest with
    | [] => some (g, c)
    | x :: _ =>
      if isBlank x then
        if g.broken && x == '\t' && c.column < indent then none
        else readGap indent fuel (g.addBlank x) (c.skip 1)
      else if isBreak x then
        let (b, c) := c.readBreak
        readGap indent fuel (g.addBreak b) c
      else some (g, c)

end Yaml
end LinkShelf
