import LinkShelf.Link.Basic
import LinkShelf.Query.Condition

/-! Filters: what a query asks of a link. All parts of a filter must hold. -/
namespace LinkShelf

structure Filter where
  /-- Words that must occur in the title or the url. -/
  text : Option String := none
  urlParts : List String := []
  requiredTags : List String := []
  excludedTags : List String := []
  hidesNeverOnly : Bool := false
  deriving DecidableEq, Repr

namespace Filter

/-- The filter of a query. It always hides links that are never to be seen. -/
def ofQuery (q : Query) : Filter where
  text :=
    match q.select .text with
    | [] => none
    | texts => some (String.intercalate " " (texts.map (·.value)))
  urlParts := (q.select .qualifier).map (·.value)
  requiredTags := ((q.select .tag).filter (!·.isExcluded)).map (·.value)
  excludedTags := ((q.select .tag).filter (·.isExcluded)).map (·.value)
  hidesNeverOnly := true

def mentions (text part : String) : Bool :=
  Text.occursIn (Text.lowerChars part.toList) (Text.lowerChars text.toList)

def hasTag (l : Link) (tag : String) : Bool :=
  l.tags.any fun t => Text.lowerChars t.toList == Text.lowerChars tag.toList

def hasWords (l : Link) (text : String) : Bool :=
  (Text.words (Text.lowerChars text.toList)).all fun w =>
    Text.occursIn w (Text.lowerChars l.title.toList) ||
      Text.occursIn w (Text.lowerChars l.url.toList)

def accepts (f : Filter) (l : Link) : Bool :=
  !(f.hidesNeverOnly && l.isNeverOnly) &&
  f.urlParts.all (mentions l.url) &&
  f.requiredTags.all (hasTag l) &&
  !f.excludedTags.any (hasTag l) &&
  f.text.all (hasWords l)

end Filter
end LinkShelf
