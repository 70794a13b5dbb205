import LinkShelf.Text.White
import LinkShelf.Url.Percent

/-! The segments of a path, without those that name the same or the upper level. -/
namespace LinkShelf
namespace Url

/-- The kinds of schemes: those of the web, files, and all others. -/
inductive SchemeKind where
  | web
  | file
  | other
  deriving DecidableEq, Repr

def SchemeKind.isSpecial (k : SchemeKind) : Bool := k != .other

def isSlash (k : SchemeKind) (c : Char) : Bool := c == '/' || (k.isSpecial && c == '\\')

def pointsOf : List Char → List Char
  | '%' :: '2' :: c :: cs =>
    if c == 'e' || c == 'E' then '.' :: pointsOf cs else '%' :: '2' :: c :: cs
  | '.' :: cs => '.' :: pointsOf cs
  | cs => cs

def isSame (segment : List Char) : Bool := pointsOf segment == ['.']

def isUpper (segment : List Char) : Bool := pointsOf segment == ['.', '.']

def isDrive : List Char → Bool
  | [a, b] => a.isAlpha && (b == ':' || b == '|')
  | _ => false

/-- A segment as it is kept. The drive of a file is written with a colon. -/
def keptSegment (k : SchemeKind) (segment : List Char) : List Char :=
  let s := encode .path segment
  if k == .file && isDrive s then s.take 1 ++ [':'] else s

/-- The segments, the last one at the front, without the last one; a drive stays. -/
def goUp (k : SchemeKind) : List (List Char) → List (List Char)
  | [] => []
  | s :: ss => if k == .file && isDrive s then s :: ss else ss

/-- Takes one more segment into those before it, the last one at the front. A segment that names a
level leaves an empty one at the end of the path. -/
def addSegment (k : SchemeKind) (before : List (List Char)) (last : Bool) (segment : List Char) :
    List (List Char) :=
  let close (ss : List (List Char)) := if last then [] :: ss else ss
  if isUpper segment then close (goUp k before)
  else if isSame segment then close before
  else keptSegment k segment :: before

def addSegments (k : SchemeKind) (before : List (List Char)) : List (List Char) → List (List Char)
  | [] => before
  | [s] => addSegment k before true s
  | s :: t :: ss => addSegments k (addSegment k before false s) (t :: ss)

def segments (k : SchemeKind) (cs : List Char) : List (List Char) :=
  (addSegments k [] (Text.pieces (isSlash k) cs)).reverse

def joinSegments (ss : List (List Char)) : List Char := ss.flatMap ('/' :: ·)

def trimFront (ss : List (List Char)) : List (List Char) :=
  match ss.dropWhile (·.isEmpty) with
  | [] => [[]]
  | ss => ss

end Url
end LinkShelf
