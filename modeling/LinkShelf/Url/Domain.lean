import LinkShelf.Text.Case
import LinkShelf.Text.Compose
import LinkShelf.Text.Direction
import LinkShelf.Url.DomainTable
import LinkShelf.Url.Punycode

/-! The plain form of a domain name. Characters are mapped to those that they are looked up as, and
labels with other than plain characters are encoded. -/
namespace LinkShelf
namespace Url

def tableImage? (n : Nat) : Option (List Char) :=
  match shiftRows.find? fun r => r.1 ≤ n && n ≤ r.2.1 with
  | some r => some [Char.ofNat (r.2.2 + (n - r.1))]
  | none =>
    match letterRows.find? fun r => r.1 ≤ n && n < r.1 + r.2.length with
    | some r => (r.2.toList[n - r.1]?).map ([·])
    | none =>
      textRows.findSome? fun r =>
        if n < r.1 then none else (Text.pieces (· == '|') r.2.toList)[n - r.1]?

/-- These letters are looked up as capitals. -/
def keepsCapital (n : Nat) : Bool := 0x13a0 ≤ n && n < 0x13f6

/-- What a character of a domain name is mapped to, if it may be written there. -/
def image? (c : Char) : Option (List Char) :=
  let n := c.toNat
  if Text.inRanges n ignoredRanges then some []
  else if !Text.inRanges n writableRanges then none
  else
    match tableImage? n with
    | some cs => some cs
    | none => some (if keepsCapital n then [c] else Text.lowerChar c)

/-- Characters that a domain name must not have in its plain form. -/
def isForbidden (c : Char) : Bool :=
  c ≤ ' ' || c == '\x7f' || "%#/:<>?@[\\]^`\x7b|\x7d".toList.contains c

def encodedMark : List Char := ['x', 'n', '-', '-']

/-- The characters of an encoded label. It must not be one that is written plainly. -/
def decodeLabel? (cs : List Char) : Option (List Char) := do
  let name ← Punycode.decode cs
  if name.all Punycode.isPlain || !name.all (fun c => image? c == some [c]) ||
      Text.compose name != name then none
  else some name

def readLabel? (cs : List Char) : Option (List Char) :=
  if encodedMark.isPrefixOf cs then decodeLabel? (cs.drop 4) else some cs

def labelFits (cs : List Char) : Bool :=
  cs.all Punycode.isPlain ||
    (!encodedMark.isPrefixOf cs && !cs.head?.any Text.isMark && Text.joinersFit [] cs)

def writeLabel (cs : List Char) : List Char :=
  if cs.all Punycode.isPlain then cs else encodedMark ++ Punycode.encode cs

def plainDomain? (name : List Char) : Option (List Char) := do
  let mapped ← name.mapM image?
  let labels ← (Text.pieces (· == '.') (Text.compose mapped.flatten)).mapM readLabel?
  if labels.all labelFits && !labels.any (·.any isForbidden) &&
      (!labels.any Text.turnsLine || labels.all Text.keepsDirection) then
    some (['.'].intercalate (labels.map writeLabel))
  else none

end Url
end LinkShelf
