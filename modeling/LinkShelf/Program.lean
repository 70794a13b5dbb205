import LinkShelf.Arguments.Help
import LinkShelf.Query.Json
import LinkShelf.Link.Json
import LinkShelf.Settings
import LinkShelf.Store.LinkFile
import LinkShelf.Url.Reader

/-! The program: what a run of each command does, and what it prints. -/
namespace LinkShelf

/-- The variables of the environment that tell where the base directory is. -/
structure Environment where
  basePath : Option String := none
  home : Option String := none
  deriving DecidableEq, Repr

/-- Why a command fails. -/
inductive Failure where
  | noHome
  | query (e : Query.ParseError)
  | url (text : String) (e : Url.UrlError)
  | collection (name : String)
  | settings (e : SettingsError)
  | links (e : Table.LoadError)
  | search (e : SearchError)
  | store (e : StoreError)
  deriving DecidableEq, Repr

namespace Failure

def message : Failure → String
  | noHome => "could not determine home directory"
  | query e => e.message
  | url text _ => "invalid url " ++ Text.quoted text
  | collection name => Collection.unknownMessage name
  | settings e => e.message
  | links _ => "failed to load link store"
  | search e => e.message
  | store e => e.message

def cause? : Failure → Option String
  | url _ e => some e.message
  | settings e => e.cause?
  | links e => some e.message
  | search (.query e) => some e.message
  | _ => none

def indented (s : String) : String :=
  "    " ++ String.ofList (s.toList.flatMap fun c => if c = '\n' then "\n    ".toList else [c])

def report (e : Failure) : String :=
  "Error: " ++ e.message ++
    (match e.cause? with
      | some cause => "\n\nCaused by:\n" ++ indented cause
      | none => "") ++ "\n"

end Failure

/-- How a run of the program ends. -/
inductive Outcome where
  | done (output : String)
  | failed (e : Failure)
  /-- The ids ran out, which nothing handles. -/
  | aborted (text : String)
  | refused (r : Arguments.Refusal)
  deriving DecidableEq, Repr

namespace Outcome

def ofResult : Except Failure String → Outcome
  | .ok output => done output
  | .error (.store .idsExhausted) => aborted StoreError.idsExhausted.message
  | .error e => failed e

def code : Outcome → UInt32
  | done _ => 0
  | failed _ => 1
  | aborted _ => 101
  | refused (.help _) => 0
  | refused .version => 0
  | refused _ => 2

def output : Outcome → String
  | done s => s
  | refused r => if r.isRequest then r.text else ""
  | _ => ""

def complaint : Outcome → String
  | failed e => e.report
  | aborted text => text ++ "\n"
  | refused r => if r.isRequest then "" else r.text
  | done _ => ""

end Outcome

namespace Program

/-- The directory of the settings: the one that is given, or one in the home directory. -/
def baseDirectory (env : Environment) : Except Failure String :=
  match env.basePath, env.home with
  | some path, _ => .ok path
  | none, some home => .ok (joinPath home ".local/share/linksearch")
  | none, none => .error .noHome

section

variable {m : Type → Type} [Monad m] [Host m]

def openLinks (env : Environment) : m (Except Failure (Settings × LinkFile)) := do
  match baseDirectory env with
  | .error e => return .error e
  | .ok base =>
    match ← Settings.load base with
    | .error e => return .error (.settings e)
    | .ok s =>
      match ← LinkFile.load (s.fullPath base) with
      | .error e => return .error (.links e)
      | .ok f => return .ok (s, f)

def searcher (s : Settings) (f : LinkFile) : Searcher := ⟨f.shelf.source, s.literalFallback⟩

def page (s : Settings) (offset : UInt64) (limit : Option UInt64) : Page :=
  { offset, limit := limit <|> s.defaultLimit }

def listing (links : List Link) : String := (Json.array (links.map Link.toJson)).pretty ++ "\n"

def counting (n : Nat) : String := toString n ++ " links found\n"

def search (env : Environment) (user query : String) (offset : UInt64) (limit : Option UInt64)
    (count : Bool) : m (Except Failure String) := do
  match ← openLinks env with
  | .error e => return .error e
  | .ok (s, f) =>
    if count then return (((searcher s f).countString user query).map counting).mapError .search
    else
      return (((searcher s f).findString user query (page s offset limit)).map listing).mapError
        .search

/-- The link that the arguments describe. They are looked at before any file is. -/
def newLink (user url : String) (title tags collections : Option String) :
    Except Failure NewLink := do
  let url ← (Url.parse url).mapError (.url url)
  let collections ←
    (Collection.ofNames (Text.items (collections.getD ""))).mapError Failure.collection
  return { userId := user, url := url.toString, title, tags := tags.map Text.items, collections }

def add (env : Environment) (n : NewLink) : m (Except Failure String) := do
  match ← openLinks env with
  | .error e => return .error e
  | .ok (_, f) =>
    let (r, _) ← f.create n
    return (r.map fun l => l.toJson.pretty ++ "\n").mapError .store

def perform (env : Environment) : Command → m (Except Failure String)
  | .tokens query =>
    return .ok ((Json.array ((Query.tokenize query).map Query.Token.toJson)).pretty ++ "\n")
  | .parse query =>
    return ((Query.ofString query).map fun q => q.toJson.pretty ++ "\n").mapError .query
  | .search user query offset limit count => search env user query offset limit count
  | .add user url title tags collections =>
    match newLink user url title tags collections with
    | .error e => return .error e
    | .ok n => add env n

/-- Runs the program with the given arguments. -/
def run (env : Environment) (args : List String) : m Outcome := do
  match Command.ofArguments args with
  | .error r => return .refused r
  | .ok c => return .ofResult (← perform env c)

end

end Program
end LinkShelf
