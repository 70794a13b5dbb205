import LinkShelf.Text.Quoted

/-! The collections that a link can be in. -/
namespace LinkShelf

inductive Collection where
  | bookmarks
  | news
  | read
  /-- Links that their owner asked never to see again. -/
  | never
  | collection
  deriving DecidableEq, Repr

namespace Collection

def name : Collection → String
  | bookmarks => "bookmarks"
  | news => "news"
  | read => "read"
  | never => "never"
  | collection => "collection"

def all : List Collection := [bookmarks, news, read, never, collection]

def ofName? (s : String) : Option Collection := all.find? (·.name == s)

@[simp] theorem ofName?_name (c : Collection) : ofName? c.name = some c := by cases c <;> decide

theorem name_of_ofName? {s : String} {c : Collection} (h : ofName? s = some c) : c.name = s := by
  simpa using List.find?_some h

def unknownMessage (s : String) : String := "unknown collection kind " ++ Text.quoted s

def ofNames : List String → Except String (List Collection)
  | [] => .ok []
  | s :: rest =>
    match ofName? s with
    | some c => (ofNames rest).map (c :: ·)
    | none => .error s

end Collection
end LinkShelf
