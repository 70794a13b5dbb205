import LinkShelf.Link.Collection
import LinkShelf.Text.Case
import LinkShelf.Time.Instant

/-! Links, and what is given to make one. -/
namespace LinkShelf

/-- A link that a user keeps. -/
structure Link where
  id : UInt64
  userId : String
  title : String
  url : String
  tags : List String
  collections : List Collection
  publishedAt : Time.Moment
  deriving DecidableEq, Repr

namespace Link

def same (a b : Link) : Bool := a.id == b.id

/-- In the collection of links never to be seen again, and in no other. -/
def isNeverOnly (l : Link) : Bool :=
  !l.collections.isEmpty && l.collections.all (· == Collection.never)

end Link

/-- A link to be made: it has no id yet, and what is left out has a default. -/
structure NewLink where
  userId : String
  url : String
  title : Option String := none
  tags : Option (List String) := none
  collections : List Collection := []
  publishedAt : Option Time.Moment := none
  deriving DecidableEq, Repr

namespace NewLink

/-- The tags whose lowercase is not among `seen` and was not met before. -/
def distinctTags (seen : List String) : List String → List String
  | [] => []
  | t :: ts =>
    if Text.lower t ∈ seen then distinctTags seen ts
    else t :: distinctTags (Text.lower t :: seen) ts

/-- The link with the given id. A link without a time is of `now`. -/
def toLink (n : NewLink) (id : UInt64) (now : Time.Moment) : Link where
  id := id
  userId := n.userId
  title := n.title.getD ""
  url := n.url
  tags := distinctTags [] (n.tags.getD [])
  collections := n.collections
  publishedAt := n.publishedAt.getD now

end NewLink
end LinkShelf
