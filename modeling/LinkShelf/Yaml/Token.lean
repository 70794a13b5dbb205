import LinkShelf.Yaml.Scalar

/-! The tokens of a YAML text. Indentation shows in them as the start and the end of blocks. -/
namespace LinkShelf
namespace Yaml

inductive Token where
  /-- The directive with a version. -/
  | version (major minor : Nat)
  /-- The directive that lets a handle stand for the start of a tag. -/
  | handle (name stem : String)
  | documentStart
  | documentEnd
  | blockSequenceStart
  | blockMappingStart
  | blockEnd
  | flowSequenceStart
  | flowSequenceEnd
  | flowMappingStart
  | flowMappingEnd
  | blockEntry
  | flowEntry
  | key
  | value
  | anchor (name : String)
  | reference (name : String)
  | tag (handle suffix : String)
  | scalar (style : Style) (text : String)
  deriving DecidableEq, Repr

def Token.isDirective : Token → Bool
  | version .. | handle .. => true
  | _ => false

def readAnchor (c : Cursor) : Option (String × Cursor) :=
  let (name, c) := c.span isNameChar
  let ends := endsWord c.rest || c.rest.head?.any ("?:,]\x7d%@`".contains ·)
  if name.isEmpty || !ends then none else some (String.ofList name, c)

def isTagChar (wide : Bool) (c : Char) : Bool :=
  isNameChar c || ";/?:@&=+$.!~*'()".contains c || (wide && (c == ',' || c == '[' || c == ']'))

def octetsBehind? (n : Nat) : Option Nat :=
  if n < 0x80 then some 0
  else if n < 0xc0 then none
  else if n < 0xe0 then some 1
  else if n < 0xf0 then some 2
  else if n < 0xf8 then some 3
  else none

/-- The characters of a tag, and how many are read for them. An escape stands for its octet, and
`pending` octets must follow the ones that were read. -/
def tagText (wide : Bool) : (pending : Nat) → List Char → Option (List Char × Nat)
  | pending, '%' :: a :: b :: cs => do
    let n ← hexNumber [a, b]
    let pending ←
      if pending = 0 then octetsBehind? n else if n / 0x40 = 2 then some (pending - 1) else none
    let (text, k) ← tagText wide pending cs
    some (Char.ofNat n :: text, k + 3)
  | 0, c :: cs =>
    if isTagChar wide c then (tagText wide 0 cs).map fun (text, k) => (c :: text, k + 1)
    else if c == '%' then none
    else some ([], 0)
  | 0, [] => some ([], 0)
  | _ + 1, _ => none

def readTagText (wide : Bool) (c : Cursor) : Option (List Char × Cursor) :=
  (tagText wide 0 c.rest).map fun (text, k) => (text, c.skip k)

/-- `!`, `!!` or `!name!`, or the start of a tag that has no handle but the first. -/
def readHandle (c : Cursor) : Option (List Char × Cursor) :=
  match c.rest with
  | '!' :: _ =>
    let (name, c) := (c.skip 1).span isNameChar
    if c.rest.head? == some '!' then some ('!' :: name ++ ['!'], c.skip 1)
    else some ('!' :: name, c)
  | _ => none

def isClosed (handle : List Char) : Bool := 1 < handle.length && handle.getLast? == some '!'

/-- `!<tag>`, or a handle and the rest of a tag. A lone `!` has no handle. -/
def readTag (inFlow : Bool) (c : Cursor) : Option (Token × Cursor) := do
  let (handle, suffix, c) ←
    match c.rest with
    | '!' :: '<' :: _ => do
      let (text, c) ← readTagText true (c.skip 2)
      if text.isEmpty || c.rest.head? != some '>' then none else some ([], text, c.skip 1)
    | _ => do
      let (handle, c) ← readHandle c
      let (text, c) ← readTagText false c
      if isClosed handle then
        if text.isEmpty then none else some (handle, text, c)
      else
        let suffix := handle.drop 1 ++ text
        some (if suffix.isEmpty then ([], ['!'], c) else (['!'], suffix, c))
  if endsWord c.rest || (inFlow && c.rest.head? == some ',') then
    some (.tag (String.ofList handle) (String.ofList suffix), c)
  else none

def readVersionNumber (c : Cursor) : Option (Nat × Cursor) :=
  let (digits, c) := c.span Char.isDigit
  if digits.isEmpty || 9 < digits.length then none
  else some (Nat.ofDigitChars 10 digits 0, c)

def readDirective (c : Cursor) : Option (Token × Cursor) := do
  let (name, c) := c.span isNameChar
  if name.isEmpty || !endsWord c.rest then none
  else
    let c := c.skipWhile isBlank
    if name = "YAML".toList then
      let (major, c) ← readVersionNumber c
      if c.rest.head? != some '.' then none
      else
        let (minor, c) ← readVersionNumber (c.skip 1)
        let c ← skipComment c
        some (.version major minor, c)
    else if name = "TAG".toList then
      let (handle, c) ← readHandle c
      if (1 < handle.length && !isClosed handle) || !c.rest.head?.any isBlank then none
      else
        let (stem, c) ← readTagText true (c.skipWhile isBlank)
        if stem.isEmpty || !endsWord c.rest then none
        else
          let c ← skipComment c
          some (.handle (String.ofList handle) (String.ofList stem), c)
    else none

end Yaml
end LinkShelf
