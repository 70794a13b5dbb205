import LinkShelf.Query.Grammar
import LinkShelf.Store.Shelf

/-! Searching with a search string, on anything that can list and count links by a filter. -/
namespace LinkShelf

/-- What a search needs of a store. -/
structure Source where
  search : String → Filter → Page → Except StoreError (List Link)
  count : String → Filter → Except StoreError Nat

def Shelf.source (s : Shelf) : Source := ⟨s.search, s.count⟩

def Source.failing (text : String) : Source :=
  ⟨fun _ _ _ => .error (.unavailable text), fun _ _ => .error (.unavailable text)⟩

inductive SearchError where
  | query (e : Query.ParseError)
  | store (e : StoreError)
  deriving DecidableEq, Repr

def SearchError.message : SearchError → String
  | query e => "invalid search query: " ++ e.message
  | store e => "store error: " ++ e.message

structure Searcher where
  source : Source
  literalFallback : Bool := false

namespace Searcher

def fallbackWarning (input : String) (e : Query.ParseError) : String :=
  "search query " ++ Text.quoted input ++ " is invalid (" ++ e.message ++
    "), searching it literally"

/-- The query of an input that is cut into tokens, with the warnings on the way. -/
def parseTokens (s : Searcher) (input : String) (ts : List Query.Token) :
    Except SearchError (Query × List String) :=
  match Query.parse ts with
  | .ok q => .ok (q, [])
  | .error e =>
    if s.literalFallback then .ok (Query.literal input, [fallbackWarning input e])
    else .error (.query e)

def parse (s : Searcher) (input : String) : Except SearchError (Query × List String) :=
  s.parseTokens input (Query.tokenize input)

def find (s : Searcher) (user : String) (q : Query) (page : Page) :
    Except SearchError (List Link) :=
  (s.source.search user (Filter.ofQuery q) page).mapError .store

def count (s : Searcher) (user : String) (q : Query) : Except SearchError Nat :=
  (s.source.count user (Filter.ofQuery q)).mapError .store

def findString (s : Searcher) (user input : String) (page : Page) :
    Except SearchError (List Link) :=
  match s.parse input with
  | .ok (q, _) => s.find user q page
  | .error e => .error e

def countString (s : Searcher) (user input : String) : Except SearchError Nat :=
  match s.parse input with
  | .ok (q, _) => s.count user q
  | .error e => .error e

end Searcher
end LinkShelf
