import LinkShelf.Json.Decode
import LinkShelf.Json.Printer
import LinkShelf.Link.Basic
import LinkShelf.Time.Printer
import LinkShelf.Time.Relaxed

/-! Links as JSON. -/
namespace LinkShelf

open Json (Decoder DecodeError)

def Collection.toJson (c : Collection) : Json := .string c.name

def Collection.decode : Decoder Collection := fun j => do
  let s ← Json.decodeVariant (all.map name) j
  match ofName? s with
  | some c => .ok c
  | none => .error (.unknownVariant s (all.map name))

def Time.Moment.decode : Decoder Time.Moment
  | .string s => ((Time.readRelaxed s).map Time.Instant.toMoment).mapError .time
  | j => Json.wrongType j "an RFC 3339 formatted date and time string"

namespace Link

def toJson (l : Link) : Json :=
  .object
    [("id", .ofNat l.id.toNat),
      ("user_id", .string l.userId),
      ("title", .string l.title),
      ("url", .string l.url),
      ("tags", .ofStrings l.tags),
      ("collections", .array (l.collections.map Collection.toJson)),
      ("published_at", .string l.publishedAt.textZ)]

structure Draft where
  id : Option UInt64 := none
  userId : Option String := none
  title : Option String := none
  url : Option String := none
  tags : Option (List String) := none
  collections : Option (List Collection) := none
  publishedAt : Option Time.Moment := none

namespace Draft

/-- Reads one field; fields of other names are ignored. -/
def read (d : Draft) (name : String) (j : Json) : Except DecodeError Draft :=
  match name with
  | "id" => return { d with id := some (← Json.decodeUInt64 j) }
  | "user_id" => return { d with userId := some (← Json.decodeString j) }
  | "title" => return { d with title := some (← Json.decodeString j) }
  | "url" => return { d with url := some (← Json.decodeString j) }
  | "tags" => return { d with tags := some (← Json.decodeList Json.decodeString j) }
  | "collections" => return { d with collections := some (← Json.decodeList Collection.decode j) }
  | "published_at" => return { d with publishedAt := some (← Time.Moment.decode j) }
  | _ => return d

def readAll (d : Draft) : List (String × Json) → Except DecodeError Draft
  | [] => .ok d
  | (name, j) :: rest => do (← d.read name j).readAll rest

def require {α : Type} (fault : DecodeError) : Option α → Except DecodeError α
  | some x => .ok x
  | none => .error fault

def finish (d : Draft) (fault : Nat → String → DecodeError) : Except DecodeError Link := do
  return {
    id := ← require (fault 0 "id") d.id
    userId := ← require (fault 1 "user_id") d.userId
    title := ← require (fault 2 "title") d.title
    url := ← require (fault 3 "url") d.url
    tags := ← require (fault 4 "tags") d.tags
    collections := ← require (fault 5 "collections") d.collections
    publishedAt := ← require (fault 6 "published_at") d.publishedAt }

end Draft

def fieldNames : List String :=
  ["id", "user_id", "title", "url", "tags", "collections", "published_at"]

/-- A link as an object, or as an array of its fields in order. -/
def decode : Decoder Link
  | .object fields => do
    (← Draft.readAll {} (Json.sortedFields fields)).finish fun _ name => .missingField name
  | .array js => do
    let link ← (← Draft.readAll {} (fieldNames.zip js)).finish fun i _ =>
      .wrongLength i "struct Link with 7 elements"
    if 7 < js.length then .error (.wrongLength js.length "fewer elements in array") else .ok link
  | j => Json.wrongType j "struct Link"

end Link

namespace NewLink

def optional (name : String) : Option Json → List (String × Json)
  | some j => [(name, j)]
  | none => []

def toJson (n : NewLink) : Json :=
  .object
    ([("user_id", .string n.userId), ("url", .string n.url)] ++
      optional "title" (n.title.map .string) ++
      optional "tags" (n.tags.map .ofStrings) ++
      [("collections", .array (n.collections.map Collection.toJson))] ++
      optional "published_at" (n.publishedAt.map fun t => .string t.textZ))

structure Draft where
  userId : Option String := none
  url : Option String := none
  title : Option (Option String) := none
  tags : Option (Option (List String)) := none
  collections : Option (List Collection) := none
  publishedAt : Option (Option Time.Moment) := none

namespace Draft

def read (d : Draft) (name : String) (j : Json) : Except DecodeError Draft :=
  match name with
  | "user_id" => return { d with userId := some (← Json.decodeString j) }
  | "url" => return { d with url := some (← Json.decodeString j) }
  | "title" => return { d with title := some (← Json.decodeOption Json.decodeString j) }
  | "tags" =>
    return { d with tags := some (← Json.decodeOption (Json.decodeList Json.decodeString) j) }
  | "collections" => return { d with collections := some (← Json.decodeList Collection.decode j) }
  | "published_at" =>
    return { d with publishedAt := some (← Json.decodeOption Time.Moment.decode j) }
  | _ => return d

def readAll (d : Draft) : List (String × Json) → Except DecodeError Draft
  | [] => .ok d
  | (name, j) :: rest => do (← d.read name j).readAll rest

end Draft

def fieldNames : List String := ["user_id", "url", "title", "tags", "collections", "published_at"]

/-- A new link as an object, where all but user and url may be missing, or as an array of its fields
in order, where tags and collections may be missing. -/
def decode : Decoder NewLink
  | .object fields => do
    let d ← Draft.readAll {} (Json.sortedFields fields)
    return {
      userId := ← Link.Draft.require (.missingField "user_id") d.userId
      url := ← Link.Draft.require (.missingField "url") d.url
      title := d.title.getD none
      tags := d.tags.getD none
      collections := d.collections.getD []
      publishedAt := d.publishedAt.getD none }
  | .array js => do
    let d ← Draft.readAll {} (fieldNames.zip js)
    let missing (i : Nat) : DecodeError := .wrongLength i "struct LinkCreate with 6 elements"
    let new : NewLink := {
      userId := ← Link.Draft.require (missing 0) d.userId
      url := ← Link.Draft.require (missing 1) d.url
      title := ← Link.Draft.require (missing 2) d.title
      tags := d.tags.getD none
      collections := d.collections.getD []
      publishedAt := ← Link.Draft.require (missing 5) d.publishedAt }
    if 6 < js.length then .error (.wrongLength js.length "fewer elements in array") else .ok new
  | j => Json.wrongType j "struct LinkCreate"

end NewLink
end LinkShelf
