import LinkShelf.Json.Reader
import LinkShelf.Yaml.Cursor

/-! Reading scalars: plain, in quotes, and as blocks. -/
namespace LinkShelf
namespace Yaml

inductive Style where
  | plain
  | quoted
  | literal
  | folded
  deriving DecidableEq, Repr

def isFlowMark (c : Char) : Bool := c == ',' || c == '[' || c == ']' || c == '\x7b' || c == '\x7d'

/-- One word of a plain scalar. Inside brackets a colon must not stand before a bracket, a comma or
a question mark. -/
def plainWord (inFlow : Bool) : List Char → Option (List Char)
  | [] => some []
  | c :: cs =>
    if isSpacing c then some []
    else if inFlow && c == ':' && (cs.head?.any fun d => isFlowMark d || d == '?') then none
    else if (c == ':' && endsWord cs) || (inFlow && isFlowMark c) then some []
    else (plainWord inFlow cs).map (c :: ·)

/-- A plain scalar behind the text read so far and a gap. It ends where its lines are no longer
indented; the flag tells whether a break was read last. -/
def readPlain (inFlow : Bool) (indent : Int) :
    (fuel : Nat) → List Char → Gap → Cursor → Option (List Char × Bool × Cursor)
  | 0, _, _, _ => none
  | fuel + 1, text, gap, c =>
    if c.atDocumentMark || c.rest.head? == some '#' then some (text, gap.broken, c)
    else do
      let word ← plainWord inFlow c.rest
      let c := c.skip word.length
      let text := if word.isEmpty then text else text ++ gap.text ++ word
      let gap := if word.isEmpty then gap else {}
      if endsWord c.rest && !c.rest.isEmpty then
        let (gap, c) ← c.readGap indent (c.rest.length + 1) gap
        if !inFlow && c.column < indent then some (text, gap.broken, c)
        else readPlain inFlow indent fuel text gap c
      else some (text, gap.broken, c)

def escaped? : Char → Option Char
  | '0' => some '\x00'
  | 'a' => some '\x07'
  | 'b' => some '\x08'
  | 't' => some '\t'
  | '\t' => some '\t'
  | 'n' => some '\n'
  | 'v' => some '\x0b'
  | 'f' => some '\x0c'
  | 'r' => some '\r'
  | 'e' => some '\x1b'
  | ' ' => some ' '
  | '"' => some '"'
  | '/' => some '/'
  | '\\' => some '\\'
  | 'N' => some '\u0085'
  | '_' => some '\u00a0'
  | 'L' => some '\u2028'
  | 'P' => some '\u2029'
  | _ => none

def codeWidth? : Char → Option Nat
  | 'x' => some 2
  | 'u' => some 4
  | 'U' => some 8
  | _ => none

def hexNumber (cs : List Char) : Option Nat :=
  cs.foldlM (fun n c => (Json.hexValue? c).map (16 * n + ·)) 0

/-- What follows a backslash: the character, and how many characters it is written with. -/
def readEscape : List Char → Option (Char × Nat)
  | [] => none
  | c :: cs =>
    match codeWidth? c with
    | some width =>
      if (cs.take width).length = width then do
        let n ← hexNumber (cs.take width)
        if n.isValidChar then some (Char.ofNat n, width + 1) else none
      else none
    | none => (escaped? c).map (·, 1)

def readQuoted (single : Bool) : (fuel : Nat) → Cursor → Option (List Char × Cursor)
  | 0, _ => none
  | fuel + 1, c =>
    if c.atDocumentMark then none
    else
      match c.rest with
      | [] => none
      | x :: cs =>
        if isSpacing x then do
          let (gap, c) ← c.readGap 0 (c.rest.length + 1) {}
          let (text, c) ← readQuoted single fuel c
          some (gap.text ++ text, c)
        else if single && x == '\'' && cs.head? == some '\'' then do
          let (text, c) ← readQuoted single fuel (c.skip 2)
          some ('\'' :: text, c)
        else if x == (if single then '\'' else '"') then some ([], c.skip 1)
        else if !single && x == '\\' then
          if (c.skip 1).atBreak then do
            let c := (c.skip 1).skipBreak
            let (gap, c) ← c.readGap 0 (c.rest.length + 1) { broken := true }
            let (text, c) ← readQuoted single fuel c
            some (gap.text ++ text, c)
          else do
            let (y, n) ← readEscape cs
            let (text, c) ← readQuoted single fuel (c.skip (n + 1))
            some (y :: text, c)
        else do
          let (text, c) ← readQuoted single fuel (c.skip 1)
          some (x :: text, c)

/-- What is kept of the breaks at the end of a block. -/
inductive Chomp where
  | strip
  | clip
  | keep
  deriving DecidableEq, Repr

/-- The header of a block: what to keep, the given indentation, zero if there is none. -/
def readHeader (c : Cursor) : Option (Chomp × Nat × Cursor) := do
  let sign? (c : Cursor) : Chomp × Cursor :=
    match c.rest with
    | '+' :: _ => (.keep, c.skip 1)
    | '-' :: _ => (.strip, c.skip 1)
    | _ => (.clip, c)
  let digit? (c : Cursor) : Option (Nat × Cursor) :=
    match c.rest with
    | d :: _ =>
      if d == '0' then none
      else if d.isDigit then some (d.toNat - '0'.toNat, c.skip 1)
      else some (0, c)
    | [] => some (0, c)
  let (chomp, c') := sign? c
  if c'.index = c.index then
    let (n, c) ← digit? c
    if n = 0 then some (.clip, 0, c)
    else
      let (chomp, c) := sign? c
      some (chomp, n, c)
  else
    let (n, c) ← digit? c'
    some (chomp, n, c)

def skipComment (c : Cursor) : Option Cursor :=
  let c := c.skipWhile isBlank
  let c := if c.rest.head? == some '#' then c.skipWhile (!isBreak ·) else c
  if c.rest.isEmpty || c.atBreak then some c.skipBreak else none

/-- The spaces and breaks in front of a line of a block; `indent` is zero while it is not known.
The last number is the widest indentation that was met. -/
def readBreaks (indent : Int) : (fuel : Nat) → Nat → Cursor → Option (List Char × Nat × Cursor)
  | 0, _, _ => none
  | fuel + 1, widest, c =>
    let spaces := (c.rest.takeWhile (· == ' ')).length
    let c := c.skip (if indent = 0 then spaces else min spaces (indent - c.column).toNat)
    let widest := max widest c.column
    if (indent = 0 || c.column < indent) && c.rest.head? == some '\t' then none
    else if c.atBreak then do
      let (b, c) := c.readBreak
      let (bs, widest, c) ← readBreaks indent fuel widest c
      some (b ++ bs, widest, c)
    else some ([], widest, c)

/-- The lines of a block behind the text read so far: `first` is the break of the last line, `more`
are the empty lines behind it, and `blank` tells whether that line began with a blank. -/
def readLines (folded : Bool) (indent : Int) :
    (fuel : Nat) → (text first more : List Char) → (blank : Bool) → Cursor →
      Option (List Char × List Char × List Char × Cursor)
  | 0, _, _, _, _, _ => none
  | fuel + 1, text, first, more, blank, c =>
    match c.rest with
    | [] => some (text, first, more, c)
    | x :: _ =>
      if c.column = indent then do
        let joined :=
          if folded && first == ['\n'] && !blank && !isBlank x then
            if more.isEmpty then [' '] else more
          else first ++ more
        let (line, c) := c.span (!isBreak ·)
        let (first, c) := c.readBreak
        let (more, _, c) ← readBreaks indent (c.rest.length + 1) 0 c
        readLines folded indent fuel (text ++ joined ++ line) first more (isBlank x) c
      else some (text, first, more, c)

def readBlock (folded : Bool) (outer : Int) (c : Cursor) : Option (List Char × Cursor) := do
  let (chomp, increment, c) ← readHeader c
  let c ← skipComment c
  let given : Int := if increment = 0 then 0 else max outer 0 + increment
  let (more, widest, c) ← readBreaks given (c.rest.length + 1) 0 c
  let indent : Int := if given = 0 then max (max widest (outer + 1)) 1 else given
  let (text, first, more, c) ← readLines folded indent (c.rest.length + 1) [] [] more false c
  match chomp with
  | .strip => some (text, c)
  | .clip => some (text ++ first, c)
  | .keep => some (text ++ first ++ more, c)

end Yaml
end LinkShelf
