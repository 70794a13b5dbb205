import LinkShelf.Url.Basic
import LinkShelf.Url.Path

/-! Reading an address. -/
namespace LinkShelf
namespace Url

def clean (cs : List Char) : List Char :=
  (Text.strip (· ≤ ' ') cs).filter fun c => !(c == '\t' || c == '\n' || c == '\r')

def isSchemeChar (c : Char) : Bool := c.isAlphanum || c == '+' || c == '-' || c == '.'

def readScheme (cs : List Char) : Option (List Char × List Char) :=
  match cs.dropWhile isSchemeChar with
  | ':' :: rest =>
    if cs.head?.any Char.isAlpha then some ((cs.takeWhile isSchemeChar).map Char.toLower, rest)
    else none
  | _ => none

def defaultPort? (scheme : String) : Option Nat :=
  match scheme with
  | "http" => some 80
  | "ws" => some 80
  | "https" => some 443
  | "wss" => some 443
  | "ftp" => some 21
  | _ => none

def kindOf (scheme : String) : SchemeKind :=
  if scheme = "file" then .file else if (defaultPort? scheme).isSome then .web else .other

def endsAuthority (k : SchemeKind) (c : Char) : Bool := isSlash k c || c == '?' || c == '#'

def splitUser (cs : List Char) : List Char × List Char :=
  (encode .user (cs.takeWhile (· != ':')), encode .user ((cs.dropWhile (· != ':')).drop 1))

def splitAt (cs : List Char) : Option (List Char) × List Char :=
  let behind := (cs.reverse.takeWhile (· != '@')).reverse
  if behind.length < cs.length then (some (cs.take (cs.length - behind.length - 1)), behind)
  else (none, cs)

/-- How many characters stand in front of the first colon that is not in brackets. -/
def hostLength (bracketed : Bool) : List Char → Nat
  | [] => 0
  | c :: cs =>
    if c == ':' && !bracketed then 0
    else hostLength (if c == '[' then true else if c == ']' then false else bracketed) cs + 1

def readPort (n : Nat) : List Char → Except UrlError (Nat × List Char)
  | [] => .ok (n, [])
  | c :: cs =>
    if c.isDigit then
      let n := 10 * n + (c.toNat - '0'.toNat)
      if n < 65536 then readPort n cs else .error .invalidPort
    else if c == '/' || c == '\\' || c == '?' || c == '#' then .ok (n, c :: cs)
    else .error .invalidPort

/-- The port behind a host, unless it is the one that the scheme has anyway. -/
def portBehind (scheme : String) (cs : List Char) : Except UrlError (Option Nat × List Char) :=
  match cs with
  | ':' :: cs => do
    let (n, rest) ← readPort 0 cs
    let given := cs.head?.any Char.isDigit
    return (if given && defaultPort? scheme != some n then some n else none, rest)
  | _ => .ok (none, cs)

def readHost (k : SchemeKind) (cs : List Char) : Except UrlError Host :=
  if k.isSpecial then (if cs.isEmpty then .error .emptyHost else Host.readDomain cs)
  else Host.readFree cs

def readAuthority (scheme : String) (cs : List Char) : Except UrlError (Authority × List Char) := do
  let k := kindOf scheme
  let own := cs.takeWhile (!endsAuthority k ·)
  let rest := cs.dropWhile (!endsAuthority k ·)
  let (user?, own) := splitAt own
  if user? = some [] && own.isEmpty && !rest.isEmpty then throw .emptyHost
  let (user, password) := splitUser (user?.getD [])
  let n := hostLength false own
  let host ← readHost k (own.take n)
  if host.isEmpty && (own.drop n).head? == some ':' then throw .emptyHost
  let (port, rest) ← portBehind scheme (own.drop n ++ rest)
  if host.isEmpty && !(user.isEmpty && password.isEmpty) then throw .emptyHost
  return ({ user, password, host, port }, rest)

def beforeQuery (cs : List Char) : List Char := cs.takeWhile fun c => c != '?' && c != '#'

/-- The path behind an authority. Only in any other scheme it may be missing. -/
def pathBehind (k : SchemeKind) (cs : List Char) : List Char :=
  let own := beforeQuery cs
  match own with
  | [] => if k.isSpecial then ['/'] else []
  | c :: rest => joinSegments (segments k (if isSlash k c then rest else own))

def addTail (u : Url) (k : SchemeKind) (cs : List Char) : Url :=
  let tail := cs.dropWhile fun c => c != '?' && c != '#'
  let (query, tail) :=
    match tail with
    | '?' :: rest =>
      let part := if k.isSpecial then Part.specialQuery else .query
      (some (encode part (rest.takeWhile (· != '#'))), rest.dropWhile (· != '#'))
    | _ => (none, tail)
  let fragment :=
    match tail with
    | _ :: rest => some (encode .fragment rest)
    | [] => none
  { u with query, fragment }

/-- The host of a file, if it is not this machine; a drive is none. The rest follows. -/
def readFileHost (cs : List Char) : Except UrlError (Option Host × List Char) := do
  let ends (c : Char) := endsAuthority .file c
  let own := cs.takeWhile (!ends ·)
  let rest := cs.dropWhile (!ends ·)
  if isDrive own then return (none, cs)
  if own.isEmpty then return (none, rest)
  let host ← Host.readDomain own
  return (if host = .named "localhost".toList then none else some host, rest)

def noHost : Authority := { host := .named [] }

/-- An address of a file. A drive in the path is on this machine. -/
def readFile (cs : List Char) : Except UrlError Url := do
  let build (host : Option Host) (ss : List (List Char)) (rest : List Char) : Url :=
    let host := if ss.any isDrive then none else host
    let authority := some ((host.map fun host => { host }).getD noHost)
    addTail { scheme := "file".toList, authority, path := joinSegments (trimFront ss) } .file rest
  match cs with
  | a :: b :: rest =>
    if isSlash .file a && isSlash .file b then
      let (host, rest) ← readFileHost rest
      let own := beforeQuery rest
      let own := if host.isSome && own.head?.any (isSlash .file) then own.drop 1 else own
      return build host (segments .file own) rest
    else
      return build none (segments .file (beforeQuery cs)) cs
  | _ => return build none (segments .file (beforeQuery cs)) cs

def readWithAuthority (scheme : String) (cs : List Char) : Except UrlError Url := do
  let (authority, rest) ← readAuthority scheme cs
  let k := kindOf scheme
  return addTail { scheme := scheme.toList, authority, path := pathBehind k rest } k rest

/-- An address of any other scheme. Without a slash its path is a text of its own. -/
def readOther (scheme : String) (cs : List Char) : Except UrlError Url :=
  match cs with
  | '/' :: '/' :: rest => readWithAuthority scheme rest
  | '/' :: _ => .ok (addTail { scheme := scheme.toList, path := pathBehind .other cs } .other cs)
  | _ => .ok (addTail { scheme := scheme.toList, path := encode .host (beforeQuery cs) } .other cs)

/-- Reads an address that names its scheme. -/
def parse (s : String) : Except UrlError Url :=
  match readScheme (clean s.toList) with
  | none => .error .noScheme
  | some (scheme, rest) =>
    let scheme := String.ofList scheme
    match kindOf scheme with
    | .file => readFile rest
    | .web => readWithAuthority scheme (rest.dropWhile (isSlash .web))
    | .other => readOther scheme rest

end Url
end LinkShelf
