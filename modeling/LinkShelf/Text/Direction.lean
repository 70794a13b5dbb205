import LinkShelf.Text.DirectionTable
import LinkShelf.Text.JoiningTable
import LinkShelf.Text.Ranges

/-! Which words can be set between words of another direction, and where joiners may stand. -/
namespace LinkShelf
namespace Text

/-- How a character takes part in the direction of a line. -/
inductive Direction where
  | left
  | right
  | number
  | arabicNumber
  | mark
  | neutral
  deriving DecidableEq, Repr

def direction (c : Char) : Direction :=
  let n := c.toNat
  if inRanges n rightRanges then .right
  else if inRanges n europeanNumberRanges then .number
  else if inRanges n arabicNumberRanges then .arabicNumber
  else if inRanges n nonspacingRanges then .mark
  else if inRanges n neutralRanges then .neutral
  else .left

/-- Whether a word makes its line one of two directions. -/
def turnsLine (cs : List Char) : Bool :=
  cs.any fun c => direction c == .right || direction c == .arabicNumber

/-- Whether a word keeps its direction among others: it begins with a letter, has no letter of the
other direction, ends with a letter or a number, and has numbers of one kind. -/
def keepsDirection (cs : List Char) : Bool :=
  let ds := cs.map direction
  let last := (ds.reverse.dropWhile (· == .mark)).head?
  match ds.head? with
  | none => true
  | some .right =>
    ds.all (· != .left) &&
      (last == some .right || last == some .number || last == some .arabicNumber) &&
      !(ds.contains .number && ds.contains .arabicNumber)
  | some .left =>
    ds.all (fun d => d != .right && d != .arabicNumber) &&
      (last == some .left || last == some .number)
  | some _ => false

def isMark (c : Char) : Bool := inRanges c.toNat markRanges

def isTransparent (c : Char) : Bool := inRanges c.toNat transparentRanges

/-- Whether a non-joiner has something to keep apart: the characters behind it, and those in front
of it from the last on. -/
def separates (before after : List Char) : Bool :=
  let joins (ranges : List (Nat × Nat)) (cs : List Char) :=
    (cs.dropWhile isTransparent).head?.any fun c => inRanges c.toNat ranges
  joins joinsBehindRanges before && joins joinsBeforeRanges after

/-- Whether joiners and non-joiners stand where they have an effect: behind a virama, or a
non-joiner between letters that would join. -/
def joinersFit (before : List Char) : List Char → Bool
  | [] => true
  | c :: cs =>
    let behindVirama := before.head?.any fun b => inRanges b.toNat viramaRanges
    (if c = '\u200c' then behindVirama || separates before cs
      else c != '\u200d' || behindVirama) && joinersFit (c :: before) cs

end Text
end LinkShelf
