import LinkShelf.Arguments.Matching

/-! The commands of the program. -/
namespace LinkShelf

open Arguments

inductive Command where
  | tokens (query : String)
  | parse (query : String)
  | search (user query : String) (offset : UInt64) (limit : Option UInt64) (count : Bool)
  | add (user url : String) (title tags collections : Option String)
  deriving DecidableEq, Repr

namespace Command

inductive Verb where
  | tokens
  | parse
  | search
  | add
  deriving DecidableEq, Repr

namespace Verb

def name : Verb → String
  | tokens => "tokens"
  | parse => "parse"
  | search => "search"
  | add => "add"

def all : List Verb := [tokens, parse, search, add]

def ofName? (s : String) : Option Verb := all.find? (·.name == s)

def queryExample : String := "e.g. '\"My Title\" url:flus.fr #news -#discard'"

def form : Verb → Form
  | tokens =>
    { name := "tokens", about := "Print the tokens of a search query"
      operand := some "query", operandAbout := queryExample, flags := [helpFlag] }
  | parse =>
    { name := "parse", about := "Print the conditions of a search query"
      operand := some "query", operandAbout := queryExample, flags := [helpFlag] }
  | search =>
    { name := "search", about := "Search links of a user"
      operand := some "query"
      flags :=
        [{ name := "user", short := some 'u', required := true, about := "Owner of the links" },
          { name := "offset", kind := .number, about := "Skip this many results [default: 0]" },
          { name := "limit", short := some 'l', kind := .number,
            about := "Maximum number of results" },
          { name := "count", short := some 'c', kind := .switch,
            about := "Only print the number of matching links" },
          helpFlag] }
  | add =>
    { name := "add", about := "Add a link to the store"
      flags :=
        [{ name := "user", short := some 'u', required := true, about := "Owner of the link" },
          { name := "url", required := true, about := "a url" },
          { name := "title", short := some 't', about := "Link title" },
          { name := "tags", about := "Comma separated tags" },
          { name := "collections",
            about := "Comma separated collections (bookmarks, news, read, never, collection)" },
          helpFlag] }

end Verb

def programForm : Form :=
  { name := ""
    flags := [helpFlag,
      { name := "version", short := some 'V', kind := .version, about := "Print version" }] }

def ofMatching (m : Matching) : Verb → Command
  | .tokens => tokens (m.operand.getD "")
  | .parse => parse (m.operand.getD "")
  | .search =>
    search ((m.text? "user").getD "") (m.operand.getD "") ((m.number? "offset").getD 0)
      (m.number? "limit") (m.isOn "count")
  | .add =>
    add ((m.text? "user").getD "") ((m.text? "url").getD "") (m.text? "title") (m.text? "tags")
      (m.text? "collections")

def isKnown (name : String) : Bool := name == "help" || (Verb.ofName? name).isSome

def helpOn : List String → Refusal
  | [] => .help programForm
  | name :: more =>
    if isKnown name then
      match more with
      | [] => .help (((Verb.ofName? name).map Verb.form).getD programForm)
      | next :: _ => .unknownCommand next
    else .unknownCommand name

def refuse (a : String) (as : List String) : Refusal :=
  let ofFlag : Except Refusal Matching → Refusal
    | .error e => e
    | .ok _ => .noCommand
  match shape a with
  | .plain => .unknownCommand a
  | .long name v => ofFlag (Matching.takeLong programForm {} name v)
  | .short cs => ofFlag (Matching.takeShort programForm {} cs)
  | .dashes =>
    match as with
    | [] => .noCommand
    | b :: _ => if isKnown b then .unknownArgument b else .unknownCommand b

/-- The command of the arguments of the program. -/
def ofArguments : List String → Except Refusal Command
  | [] => .error .noCommand
  | a :: as =>
    if a = "help" then .error (helpOn as)
    else
      match Verb.ofName? a with
      | some v => (v.form.read as).map fun m => ofMatching m v
      | none => .error (refuse a as)

end Command
end LinkShelf
