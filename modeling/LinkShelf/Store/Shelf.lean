import LinkShelf.Filter
import LinkShelf.Host.Basic

/-! Links in memory: making, searching and counting them. -/
namespace LinkShelf

/-- A part of a list: what to skip, and how much to take. -/
structure Page where
  offset : UInt64 := 0
  limit : Option UInt64 := none
  deriving DecidableEq, Repr

def Page.cut {α : Type} (p : Page) (xs : List α) : List α :=
  let rest := xs.drop p.offset.toNat
  match p.limit with
  | some n => rest.take n.toNat
  | none => rest

namespace Link

def lastId : UInt64 := 0xFFFFFFFFFFFFFFFF

/-- One more than the greatest id, zero if there is none; nothing if an id is the last. -/
def nextId? : List Link → Option UInt64
  | [] => some 0
  | l :: ls =>
    if l.id = lastId then none
    else (nextId? ls).map fun n => if n < l.id + 1 then l.id + 1 else n

/-- Newer links first; of equally old ones the one with the smaller id. -/
def comesFirst (a b : Link) : Bool :=
  b.publishedAt.before a.publishedAt ||
    (!a.publishedAt.before b.publishedAt && a.id ≤ b.id)

def sorted (links : List Link) : List Link := links.mergeSort comesFirst

def matching (links : List Link) (user : String) (f : Filter) : List Link :=
  links.filter fun l => l.userId == user && f.accepts l

end Link

inductive StoreError where
  /-- A link was to be made, and the greatest id is taken. -/
  | idsExhausted
  /-- The ids ran out earlier. -/
  | broken
  | file (e : FileError)
  | unavailable (text : String)
  deriving DecidableEq, Repr

def StoreError.message : StoreError → String
  | idsExhausted => "attempt to add with overflow"
  | broken => "link list lock poisoned"
  | file e => e.message
  | unavailable text => text

/-- The links in the order in which they were made. A shelf breaks when the ids run out, and then
answers nothing any more. -/
structure Shelf where
  links : List Link := []
  broken : Bool := false
  deriving DecidableEq, Repr

namespace Shelf

/-- The new link with its id, and the shelf with it at the end. -/
def create (s : Shelf) (n : NewLink) (now : Time.Moment) : Except StoreError Link × Shelf :=
  if s.broken then (.error .broken, s)
  else
    match Link.nextId? s.links with
    | none => (.error .idsExhausted, { s with broken := true })
    | some id => (.ok (n.toLink id now), { s with links := s.links ++ [n.toLink id now] })

/-- The links of a user that pass a filter, in order, and of these the given page. -/
def search (s : Shelf) (user : String) (f : Filter) (page : Page) : Except StoreError (List Link) :=
  if s.broken then .error .broken
  else .ok (page.cut (Link.sorted (Link.matching s.links user f)))

def count (s : Shelf) (user : String) (f : Filter) : Except StoreError Nat :=
  if s.broken then .error .broken else .ok (Link.matching s.links user f).length

end Shelf
end LinkShelf
