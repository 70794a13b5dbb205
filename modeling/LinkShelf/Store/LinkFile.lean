import LinkShelf.Store.Search
import LinkShelf.Store.Table

/-! Links that are kept in a file. They are searched in memory, and the file is written anew for
each new link. -/
namespace LinkShelf

/-- A file of links and what it holds. -/
structure LinkFile where
  path : String
  shelf : Shelf := {}
  deriving DecidableEq, Repr

namespace LinkFile

def draftPath (path : String) : String := path ++ "-tmp"

def ensureExists {m : Type → Type} [Monad m] [Host m] (path : String) :
    m (Except FileError Unit) := do
  match ← Host.status path with
  | .error .notFound => Host.writeFile path (Table.write [])
  | r => return r

def load {m : Type → Type} [Monad m] [Host m] (path : String) :
    m (Except Table.LoadError LinkFile) := do
  match ← ensureExists path with
  | .error e => return .error (.file e)
  | .ok () =>
    match ← Host.readFile path with
    | .error e => return .error (.file e)
    | .ok bs => return (Table.read bs).map fun links => { path, shelf := { links } }

/-- Writes the links to the draft, and moves it to the path. -/
def save {m : Type → Type} [Monad m] [Host m] (path : String) (links : List Link) :
    m (Except FileError Unit) := do
  match ← Host.writeFile (draftPath path) (Table.write links) with
  | .error e => return .error e
  | .ok () => Host.rename (draftPath path) path

/-- Makes a link and writes the file. A link that cannot be written is not kept. -/
def create {m : Type → Type} [Monad m] [Host m] (f : LinkFile) (n : NewLink) :
    m (Except StoreError Link × LinkFile) := do
  match f.shelf.create n (← Host.now) with
  | (.error e, shelf) => return (.error e, { f with shelf })
  | (.ok link, shelf) =>
    match ← save f.path shelf.links with
    | .error e => return (.error (.file e), f)
    | .ok () => return (.ok link, { f with shelf })

end LinkFile
end LinkShelf
