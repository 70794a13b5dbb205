import LinkShelf.Host.Basic
import LinkShelf.Host.Path
import LinkShelf.Text.White
import LinkShelf.Yaml.Value
import LinkShelf.Yaml.Writer

/-! The settings, and the file in the base directory that keeps them. -/
namespace LinkShelf

structure Settings where
  /-- The file of links, as seen from the base directory. -/
  linksPath : String := "links.csv"
  /-- How many links a search shows that does not ask for a number. -/
  defaultLimit : Option UInt64 := none
  /-- Whether input that is no query is searched as it stands. -/
  literalFallback : Bool := true
  deriving DecidableEq, Repr

inductive SettingsError where
  | noBase (path : String) (e : FileError)
  | unwritable (e : FileError)
  | unreadable (path : String) (e : FileError)
  | notText (path : String)
  | malformed
  | blankLinksPath
  | zeroLimit
  deriving DecidableEq, Repr

namespace SettingsError

def message : SettingsError → String
  | noBase path _ => "failed to create " ++ path
  | unwritable e => e.message
  | unreadable path _ => "failed to read " ++ path
  | notText path => "failed to read " ++ path
  | malformed => "config is malformed"
  | blankLinksPath => "links_path must not be empty"
  | zeroLimit => "default_limit must be greater than 0"

def cause? : SettingsError → Option String
  | noBase _ e => some e.message
  | unreadable _ e => some e.message
  | notText _ => some "stream did not contain valid UTF-8"
  | _ => none

end SettingsError

namespace Settings

def render (s : Settings) : String :=
  String.ofList <|
    "links_path: ".toList ++ Yaml.writeText s.linksPath ++
      "default_limit: ".toList ++
      (match s.defaultLimit with
        | none => "null".toList
        | some n => Nat.toDigits 10 n.toNat) ++
      "\nliteral_fallback: ".toList ++ (if s.literalFallback then "true" else "false").toList ++
        ['\n']

/-- The settings of a mapping. What it does not name has its default, other names are free. -/
def ofDocument (d : Yaml.Document) : Option Settings :=
  match d.root with
  | .mapping entries =>
    if entries.all fun e => (d.scalar? e.1).isSome then do
      some
        { linksPath := ← d.field? entries "links_path" (some ·.text) "links.csv"
          defaultLimit := ← d.field? entries "default_limit" (·.optionalUInt64?) none
          literalFallback := ← d.field? entries "literal_fallback" (·.bool?) true }
    else none
  | .scalar s => if s.style == .plain && s.text.isEmpty then some {} else none
  | _ => none

/-- The settings in a text, unless it is malformed. A text without a document has the defaults. -/
def parse (text : String) : Option Settings :=
  match Yaml.read text with
  | none => none
  | some none => some {}
  | some (some d) => ofDocument d

def validate (s : Settings) : Except SettingsError Unit :=
  if Text.trim s.linksPath = "" then .error .blankLinksPath
  else if s.defaultLimit = some 0 then .error .zeroLimit
  else .ok ()

def ofBytes (path : String) (bs : Bytes) : Except SettingsError Settings :=
  match Utf8.decode? bs with
  | none => .error (.notText path)
  | some text =>
    match parse text with
    | none => .error .malformed
    | some s => s.validate.map fun _ => s

def bytes (s : Settings) : Bytes := Utf8.encodeString s.render

def filePath (base : String) : String := joinPath base "config.yaml"

def fullPath (base : String) (s : Settings) : String := joinPath base s.linksPath

variable {m : Type → Type} [Monad m] [Host m]

def save (base : String) (s : Settings) : m (Except SettingsError Unit) :=
  return (← Host.writeFile (filePath base) s.bytes).mapError .unwritable

def ensureFile (path : String) : m (Except SettingsError Unit) := do
  match ← Host.status path with
  | .ok () => return .ok ()
  | .error _ => return (← Host.writeFile path ({} : Settings).bytes).mapError .unwritable

/-- Reads the settings of a base directory, and makes the directory and the file if they are
missing. A file that is written in another way, or is not complete, is written anew. -/
def load (base : String) : m (Except SettingsError Settings) := do
  let path := filePath base
  match ← Host.makeDirectories base with
  | .error e => return .error (.noBase base e)
  | .ok () =>
    match ← ensureFile path with
    | .error e => return .error e
    | .ok () =>
      match ← Host.readFile path with
      | .error e => return .error (.unreadable path e)
      | .ok bs =>
        match ofBytes path bs with
        | .error e => return .error e
        | .ok s =>
          if bs = s.bytes then return .ok s
          else return (← save base s).map fun () => s

end Settings
end LinkShelf
