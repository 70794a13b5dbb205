import LinkShelf.Yaml.Layout

/-! The document that tokens stand for. -/
namespace LinkShelf
namespace Yaml

structure Scalar where
  tag : Option String := none
  style : Style := .plain
  text : String := ""
  deriving DecidableEq, Repr

inductive Node where
  | scalar (s : Scalar)
  | sequence (items : List Node)
  | mapping (entries : List (Node × Node))
  /-- What an anchor with this number is put on. -/
  | reference (number : Nat)
  deriving Repr

def Node.empty : Node := .scalar {}

/-- The anchors met so far: their numbers, and the scalars they are put on. An anchor is numbered by
how many names are known, and the last one with a number counts. -/
structure Anchors where
  numbers : List (String × Nat) := []
  scalars : List (Nat × Option Scalar) := []
  deriving DecidableEq, Repr

def Anchors.add (a : Anchors) (name : String) (s : Option Scalar) : Anchors :=
  let number := a.numbers.length
  { numbers := (name, number) :: a.numbers.filter (·.1 != name)
    scalars := (number, s) :: a.scalars }

/-- A root and the anchors below it. -/
structure Document where
  root : Node := .empty
  anchors : Anchors := {}
  deriving Repr

def Document.scalar? (d : Document) : Node → Option Scalar
  | .scalar s => some s
  | .reference n => (d.anchors.scalars.lookup n).join
  | _ => none

/-- The state of the grammar: the tokens in front, what handles stand for, and the anchors. -/
structure Parsing where
  tokens : List Token
  handles : List (String × String) := []
  anchors : Anchors := {}
  deriving Repr

abbrev Parse := StateT Parsing Option

namespace Parse

def peek : Parse (Option Token) := do return (← get).tokens.head?

def skip : Parse Unit := modify fun s => { s with tokens := s.tokens.tail }

def accept (t : Token) : Parse Bool := do
  if (← peek) == some t then skip; return true
  else return false

def expect (t : Token) : Parse Unit := do
  if !(← accept t) then failure

def before (ts : List Token) : Parse Bool := do
  match ← peek with
  | some t => return ts.contains t
  | none => return false

structure Properties where
  anchor : Option String := none
  tag : Option String := none
  deriving DecidableEq, Repr

/-- The full tag of a handle and a suffix. -/
def resolveTag (handle suffix : String) : Parse String := do
  if handle.isEmpty then return suffix
  else
    match (← get).handles.lookup handle with
    | some stem => return stem ++ suffix
    | none => failure

/-- An anchor and a tag in either order, or one of them, or none. -/
def properties : Parse Properties := do
  match ← peek with
  | some (.anchor name) =>
    skip
    match ← peek with
    | some (.tag handle suffix) =>
      skip
      return { anchor := name, tag := ← resolveTag handle suffix }
    | _ => return { anchor := name }
  | some (.tag handle suffix) =>
    skip
    match ← peek with
    | some (.anchor name) =>
      skip
      return { anchor := name, tag := ← resolveTag handle suffix }
    | _ => return { tag := ← resolveTag handle suffix }
  | _ => return {}

def note (p : Properties) (s : Option Scalar) : Parse Unit :=
  match p.anchor with
  | some name => modify fun st => { st with anchors := st.anchors.add name s }
  | none => return

def scalar (p : Properties) (s : Scalar) : Parse Node := do
  note p (some s)
  return .scalar s

def reference (name : String) : Parse Node := do
  match (← get).anchors.numbers.lookup name with
  | some n => return .reference n
  | none => failure

def orEmpty (stops : List Token) (p : Parse Node) : Parse Node := do
  if ← before stops then return .empty else p

mutual

/-- A node. Only some places admit a sequence whose dashes are not indented, and only outside of
brackets there are blocks. -/
def node (block dashes : Bool) : (fuel : Nat) → Parse Node
  | 0 => failure
  | fuel + 1 => do
    match ← peek with
    | some (.reference name) =>
      skip
      reference name
    | _ =>
      let p ← properties
      match ← peek, block, dashes with
      | some .blockEntry, _, true =>
        note p none
        return .sequence (← dashedItems fuel)
      | some (.scalar style text), _, _ =>
        skip
        let tag := if p.tag = some "!" then none else p.tag
        scalar p { tag, style, text }
      | some .flowSequenceStart, _, _ =>
        skip
        note p none
        return .sequence (← flowItems true fuel)
      | some .flowMappingStart, _, _ =>
        skip
        note p none
        return .mapping (← flowEntries true fuel)
      | some .blockSequenceStart, true, _ =>
        skip
        note p none
        return .sequence (← blockItems fuel)
      | some .blockMappingStart, true, _ =>
        skip
        note p none
        return .mapping (← blockEntries fuel)
      | _, _, _ => if p = {} then failure else scalar p { tag := p.tag }

def blockItems : (fuel : Nat) → Parse (List Node)
  | 0 => failure
  | fuel + 1 => do
    if ← accept .blockEnd then return []
    expect .blockEntry
    let item ← orEmpty [.blockEntry, .blockEnd] (node true false fuel)
    return item :: (← blockItems fuel)

/-- The items of a sequence that is indented like the key in front of it. -/
def dashedItems : (fuel : Nat) → Parse (List Node)
  | 0 => failure
  | fuel + 1 => do
    if !(← accept .blockEntry) then return []
    let item ← orEmpty [.blockEntry, .key, .value, .blockEnd] (node true false fuel)
    return item :: (← dashedItems fuel)

def blockEntries : (fuel : Nat) → Parse (List (Node × Node))
  | 0 => failure
  | fuel + 1 => do
    if ← accept .blockEnd then return []
    expect .key
    let stops := [.key, .value, .blockEnd]
    let key ← orEmpty stops (node true true fuel)
    let value ←
      if ← accept .value then orEmpty stops (node true true fuel) else pure .empty
    return (key, value) :: (← blockEntries fuel)

def flowValue (close : Token) : (fuel : Nat) → Parse Node
  | 0 => failure
  | fuel + 1 => do
    if ← accept .value then orEmpty [.flowEntry, close] (node false false fuel) else return .empty

/-- The items up to a closing bracket. A single entry may stand for a mapping. -/
def flowItems (first : Bool) : (fuel : Nat) → Parse (List Node)
  | 0 => failure
  | fuel + 1 => do
    if ← accept .flowSequenceEnd then return []
    if !first then expect .flowEntry
    if ← accept .flowSequenceEnd then return []
    let item ←
      if ← accept .key then
        let key ←
          if ← before [.value, .flowEntry, .flowSequenceEnd] then do
            skip
            pure .empty
          else node false false fuel
        let value ← flowValue .flowSequenceEnd fuel
        pure (Node.mapping [(key, value)])
      else node false false fuel
    return item :: (← flowItems false fuel)

def flowEntries (first : Bool) : (fuel : Nat) → Parse (List (Node × Node))
  | 0 => failure
  | fuel + 1 => do
    if ← accept .flowMappingEnd then return []
    if !first then expect .flowEntry
    if ← accept .flowMappingEnd then return []
    let entry ←
      if ← accept .key then
        let key ← orEmpty [.value, .flowEntry, .flowMappingEnd] (node false false fuel)
        let value ← flowValue .flowMappingEnd fuel
        pure (key, value)
      else
        let key ← node false false fuel
        pure (key, .empty)
    return entry :: (← flowEntries false fuel)

end

/-- The directives in front of a document: at most one version, and each handle once. -/
def directives : (fuel : Nat) → (version : Bool) → Parse Unit
  | 0, _ => failure
  | fuel + 1, version => do
    match ← peek with
    | some (.version major minor) =>
      if version || major != 1 || (minor != 1 && minor != 2) then failure
      skip
      directives fuel true
    | some (.handle name stem) =>
      if ((← get).handles.lookup name).isSome then failure
      skip
      modify fun s => { s with handles := (name, stem) :: s.handles }
      directives fuel version
    | _ => return

def knownHandles : List (String × String) := [("!", "!"), ("!!", "tag:yaml.org,2002:")]

/-- One document. It may be empty behind three dashes, and must have those behind directives. -/
def document (fuel : Nat) : Parse Document := do
  let directed := (← peek).any Token.isDirective
  directives fuel false
  modify fun s => { s with handles := s.handles ++ knownHandles }
  let root ←
    if ← accept .documentStart then
      match ← peek with
      | none => pure .empty
      | some t =>
        if t == .documentStart || t == .documentEnd || t.isDirective then pure .empty
        else node true false fuel
    else if directed then failure
    else node true false fuel
  return { root, anchors := (← get).anchors }

end Parse

/-- The document of a text, if it has one. A text with two of them is malformed. -/
def read (text : String) : Option (Option Document) := do
  let ts ← tokenize text
  if ts.isEmpty then some none
  else
    let (d, s) ← (Parse.document (3 * ts.length + 3)).run { tokens := ts }
    if s.tokens.all (· == .documentEnd) then some (some d) else none

end Yaml
end LinkShelf
