import LinkShelf.Csv.Writer
import LinkShelf.Store.Shelf
import LinkShelf.Text.Items
import LinkShelf.Text.Natural
import LinkShelf.Time.Printer
import LinkShelf.Time.Strict

/-! The table of links in a file: a header and one record a link. -/
namespace LinkShelf
namespace Table

def columns : List String :=
  ["id", "user_id", "url", "title", "tags", "collections", "published_at"]

inductive LoadError where
  | file (e : FileError)
  | fieldCount (at_ : Csv.Position) (found expected : Nat)
  | notText (at_ : Csv.Position) (field valid : Nat)
  | missing (column : String)
  | number (e : Text.NumberError)
  | collection (name : String)
  | time (e : Time.TimeError)
  deriving DecidableEq, Repr

def LoadError.message : LoadError → String
  | file e => e.message
  | fieldCount p found expected =>
    "CSV error: record " ++ toString p.record ++ " (line: " ++ toString p.line ++ ", byte: " ++
      toString p.byte ++ "): found record with " ++ toString found ++
      " fields, but the previous record has " ++ toString expected ++ " fields"
  | notText p field valid =>
    "CSV parse error: record " ++ toString p.record ++ " (line " ++ toString p.line ++
      ", field: " ++ toString field ++ ", byte: " ++ toString p.byte ++
      "): invalid utf-8: invalid UTF-8 in field " ++ toString field ++ " near byte index " ++
      toString valid
  | missing column => "couldnt get record " ++ column
  | number e => e.message
  | collection name => Collection.unknownMessage name
  | time e => e.message

/-- The fields as texts; on failure the index of the first that is none, and its valid bytes. -/
def decodeFields (index : Nat) : List Bytes → Except (Nat × Nat) (List String)
  | [] => .ok []
  | f :: fs =>
    match Utf8.decode f with
    | .ok cs => (decodeFields (index + 1) fs).map (String.ofList cs :: ·)
    | .error valid => .error (index, valid)

def column (fields : List String) (index : Nat) : Except LoadError String :=
  match fields[index]? with
  | some s => .ok s
  | none => .error (.missing (columns.getD index ""))

/-- The link of a record. The collections are looked at first. -/
def readLink (fields : List String) : Except LoadError Link := do
  let collections ← (Collection.ofNames (Text.items (← column fields 5))).mapError .collection
  let id ← (Text.readUInt64 (← column fields 0)).mapError .number
  let userId ← column fields 1
  let url ← column fields 2
  let title ← column fields 3
  let tags := Text.items (← column fields 4)
  let publishedAt ← (Time.readStrict (← column fields 6)).mapError .time
  return { id, userId, title, url, tags, collections, publishedAt }

/-- The links of the records below a header of the given width. A record that is no text is reported
at `previous`, the place where reading it began. -/
def readRecords (width : Nat) (previous : Csv.Position) :
    List Csv.Record → Except LoadError (List Link)
  | [] => .ok []
  | r :: rs => do
    if r.fields.length ≠ width then throw (.fieldCount r.position r.fields.length width)
    let fields ← (decodeFields 0 r.fields).mapError fun (field, valid) =>
      .notText previous field valid
    let link ← readLink fields
    let next := match rs with
      | [] => {}
      | r :: _ => r.position
    return link :: (← readRecords width next rs)

/-- The links of a table. The header is read together with the first record below it. -/
def read (bs : Bytes) : Except LoadError (List Link) :=
  match Csv.records bs with
  | [] => .ok []
  | header :: rs => readRecords header.fields.length header.position rs

def fields (l : Link) : List String :=
  [toString l.id, l.userId, l.url, l.title, Text.joinItems l.tags,
    Text.joinItems (l.collections.map Collection.name), l.publishedAt.textOffset]

def write (links : List Link) : Bytes :=
  Csv.write ((columns :: links.map fields).map (·.map Utf8.encodeString))

end Table
end LinkShelf
