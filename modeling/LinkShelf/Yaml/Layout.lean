import LinkShelf.Yaml.Token

/-! The state of reading tokens: how far blocks are indented, and where keys may begin. -/
namespace LinkShelf
namespace Yaml

/-- A place where a key begins if a colon follows on the line: how many tokens are in front, and
whether the line cannot be anything else. -/
structure Candidate where
  count : Nat
  index : Nat
  line : Nat
  column : Nat
  required : Bool
  deriving DecidableEq, Repr

/-- A key is on one line and not longer than 1024 characters. -/
def Candidate.isStale (k : Candidate) (c : Cursor) : Bool :=
  k.line < c.line || k.index + 1024 < c.index

/-- The tokens read so far, the indentation of the open blocks, innermost first, and the candidates
in front of the cursor and in front of each open bracket. -/
structure Layout where
  cursor : Cursor
  tokens : List Token := []
  indent : Int := -1
  outer : List Int := []
  key : Option Candidate := none
  enclosing : List (Option Candidate) := []
  keyAllowed : Bool := true
  deriving DecidableEq, Repr

namespace Layout

def inFlow (s : Layout) : Bool := !s.enclosing.isEmpty

def push (s : Layout) (t : Token) : Layout := { s with tokens := s.tokens ++ [t] }

/-- Opens a block at a column to the right of the others; its token stands behind `count` others. -/
def indentTo (s : Layout) (column count : Nat) (t : Token) : Layout :=
  if !s.inFlow && s.indent < column then
    { s with
      indent := column, outer := s.indent :: s.outer, tokens := s.tokens.insertIdx count t }
  else s

/-- How many blocks are right of a column, and the indentation of the others. -/
def closeTo (column : Int) : (indent : Int) → (outer : List Int) → Nat × Int × List Int
  | indent, [] => (0, indent, [])
  | indent, next :: outer =>
    if column < indent then
      let (n, r) := closeTo column next outer
      (n + 1, r)
    else (0, indent, next :: outer)

def dedentTo (s : Layout) (column : Int) : Layout :=
  if s.inFlow then s
  else
    let (n, indent, outer) := closeTo column s.indent s.outer
    { s with tokens := s.tokens ++ List.replicate n .blockEnd, indent, outer }

def dropKey (s : Layout) : Option Layout :=
  if s.key.any (·.required) then none else some { s with key := none }

def saveKey (s : Layout) : Option Layout :=
  if s.keyAllowed then
    s.dropKey.map fun s =>
      { s with
        key := some
          { count := s.tokens.length, index := s.cursor.index, line := s.cursor.line
            column := s.cursor.column
            required := !s.inFlow && s.indent = s.cursor.column } }
  else some s

def refresh (c : Cursor) : Option Candidate → Option (Option Candidate)
  | none => some none
  | some k => if !k.isStale c then some (some k) else if k.required then none else some none

def refreshKeys (s : Layout) : Option Layout := do
  some
    { s with key := ← refresh s.cursor s.key, enclosing := ← s.enclosing.mapM (refresh s.cursor) }

/-- Moves over blanks, comments and breaks. Tabs are no blanks where keys are allowed in a block. -/
def skipSpacing : (fuel : Nat) → Layout → Layout
  | 0, s => s
  | fuel + 1, s =>
    let c := s.cursor
    let c := if c.column = 0 && c.rest.head? == some '\ufeff' then c.skip 1 else c
    let c := c.skipWhile fun x => x == ' ' || (x == '\t' && (s.inFlow || !s.keyAllowed))
    let c := if c.rest.head? == some '#' then c.skipWhile (!isBreak ·) else c
    if c.atBreak then
      skipSpacing fuel { s with cursor := c.skipBreak, keyAllowed := s.keyAllowed || !s.inFlow }
    else { s with cursor := c }

def mark (s : Layout) (t : Token) (n : Nat) : Layout :=
  { s.push t with cursor := s.cursor.skip n }

def word (s : Layout) (read : Cursor → Option (Token × Cursor)) : Option Layout := do
  let s ← s.saveKey
  let (t, cursor) ← read s.cursor
  some { s.push t with cursor, keyAllowed := false }

def documentMark (s : Layout) (t : Token) : Option Layout := do
  let s ← (s.dedentTo (-1)).dropKey
  some { s.mark t 3 with keyAllowed := false }

def directive (s : Layout) : Option Layout := do
  let s ← (s.dedentTo (-1)).dropKey
  let (t, cursor) ← readDirective (s.cursor.skip 1)
  some { s.push t with cursor, keyAllowed := false }

def openBracket (s : Layout) (t : Token) : Option Layout := do
  let s ← s.saveKey
  some { s.mark t 1 with key := none, enclosing := s.key :: s.enclosing, keyAllowed := true }

def closeBracket (s : Layout) (t : Token) : Option Layout := do
  let s ← s.dropKey
  some
    { s.mark t 1 with
      key := s.enclosing.head?.join, enclosing := s.enclosing.tail, keyAllowed := false }

def flowEntry (s : Layout) : Option Layout := do
  let s ← s.dropKey
  some { s.mark .flowEntry 1 with keyAllowed := true }

def openBlock (s : Layout) (t : Token) : Option Layout :=
  if s.inFlow then some s
  else if s.keyAllowed then some (s.indentTo s.cursor.column s.tokens.length t)
  else none

def blockEntry (s : Layout) : Option Layout := do
  let s ← (← s.openBlock .blockSequenceStart).dropKey
  some { s.mark .blockEntry 1 with keyAllowed := true }

def explicitKey (s : Layout) : Option Layout := do
  let s ← (← s.openBlock .blockMappingStart).dropKey
  some { s.mark .key 1 with keyAllowed := !s.inFlow }

/-- A colon. If there is a candidate, it is a key, and a block may begin with it. -/
def value (s : Layout) : Option Layout :=
  match s.key with
  | some k =>
    let s := { s with tokens := s.tokens.insertIdx k.count .key }
    let s := s.indentTo k.column k.count .blockMappingStart
    some { s.mark .value 1 with key := none, keyAllowed := false }
  | none => do
    let s ← s.openBlock .blockMappingStart
    some { s.mark .value 1 with keyAllowed := !s.inFlow }

def block (s : Layout) (folded : Bool) : Option Layout := do
  let s ← s.dropKey
  let (text, cursor) ← readBlock folded s.indent (s.cursor.skip 1)
  some
    { s.push (.scalar (if folded then .folded else .literal) (String.ofList text)) with
      cursor, keyAllowed := true }

def quoted (s : Layout) (single : Bool) : Option Layout :=
  s.word fun c => do
    let (text, c) ← readQuoted single (c.rest.length + 1) (c.skip 1)
    some (.scalar .quoted (String.ofList text), c)

/-- A plain scalar. A key may begin behind it if it ends with a break. -/
def plain (s : Layout) : Option Layout := do
  let s ← s.saveKey
  let (text, broken, cursor) ←
    readPlain s.inFlow (s.indent + 1) (s.cursor.rest.length + 1) [] {} s.cursor
  some { s.push (.scalar .plain (String.ofList text)) with cursor, keyAllowed := broken }

def startsPlain (inFlow : Bool) (x : Char) (cs : List Char) : Bool :=
  !(isSpacing x || "-?:,[]\x7b\x7d#&*!|>'\"%@`".contains x) ||
    (x == '-' && !cs.head?.any isBlank) || (!inFlow && (x == '?' || x == ':') && !endsWord cs)

/-- Reads the token at the cursor, where `x` is the first character. -/
def readToken (s : Layout) (x : Char) (cs : List Char) : Option Layout :=
  if s.cursor.column = 0 && x == '%' then s.directive
  else if s.cursor.atMark '-' then s.documentMark .documentStart
  else if s.cursor.atMark '.' then s.documentMark .documentEnd
  else if x == '[' then s.openBracket .flowSequenceStart
  else if x == '\x7b' then s.openBracket .flowMappingStart
  else if x == ']' then s.closeBracket .flowSequenceEnd
  else if x == '\x7d' then s.closeBracket .flowMappingEnd
  else if x == ',' then s.flowEntry
  else if x == '-' && endsWord cs then s.blockEntry
  else if x == '?' && (s.inFlow || endsWord cs) then s.explicitKey
  else if x == ':' && (s.inFlow || endsWord cs) then s.value
  else if x == '*' then
    s.word fun c => (readAnchor (c.skip 1)).map fun (name, c) => (.reference name, c)
  else if x == '&' then
    s.word fun c => (readAnchor (c.skip 1)).map fun (name, c) => (.anchor name, c)
  else if x == '!' then s.word (readTag s.inFlow)
  else if x == '|' && !s.inFlow then s.block false
  else if x == '>' && !s.inFlow then s.block true
  else if x == '\'' then s.quoted true
  else if x == '"' then s.quoted false
  else if startsPlain s.inFlow x cs then s.plain
  else none

def run : (fuel : Nat) → Layout → Option Layout
  | 0, _ => none
  | fuel + 1, s => do
    let s ← (s.skipSpacing (s.cursor.rest.length + 1)).refreshKeys
    match s.cursor.rest with
    | [] => (s.dedentTo (-1)).dropKey
    | x :: cs =>
      let s ← (s.dedentTo s.cursor.column).readToken x cs
      run fuel s

end Layout

def tokenize (text : String) : Option (List Token) :=
  if text.toList.all isAllowed then
    (Layout.run (text.length + 1) { cursor := { rest := text.toList } }).map (·.tokens)
  else none

end Yaml
end LinkShelf
