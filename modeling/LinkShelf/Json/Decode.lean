import LinkShelf.Decimal.Double
import LinkShelf.Json.Basic
import LinkShelf.Text.Quoted
import LinkShelf.Time.Error

/-! Reading values of a given type out of JSON, with the first fault that is met. -/
namespace LinkShelf
namespace Json

def Number.describe : Number → String
  | .whole negative n =>
    if negative then
      if n = 0 ∨ UInt64.size < 2 * n then float true n 0 else "integer `-" ++ toString n ++ "`"
    else if UInt64.size ≤ n then float false n 0
    else "integer `" ++ toString n ++ "`"
  | .real negative n e => float negative n e
where
  float (negative : Bool) (n : Nat) (e : Int) : String :=
    "floating point `" ++ String.ofList (Decimal.doubleText negative n e) ++ "`"

def describe : Json → String
  | null => "null"
  | bool b => "boolean `" ++ toString b ++ "`"
  | number n => n.describe
  | string s => "string " ++ Text.quoted s
  | array _ => "sequence"
  | object _ => "map"

inductive DecodeError where
  | missingField (name : String)
  | wrongType (found expected : String)
  | wrongValue (found expected : String)
  | wrongLength (found : Nat) (expected : String)
  | unknownVariant (found : String) (known : List String)
  | time (e : Time.TimeError)
  deriving DecidableEq, Repr

def DecodeError.message : DecodeError → String
  | missingField name => "missing field `" ++ name ++ "`"
  | wrongType found expected => "invalid type: " ++ found ++ ", expected " ++ expected
  | wrongValue found expected => "invalid value: " ++ found ++ ", expected " ++ expected
  | wrongLength n expected => "invalid length " ++ toString n ++ ", expected " ++ expected
  | unknownVariant found known =>
    "unknown variant `" ++ found ++ "`, expected one of " ++
      String.intercalate ", " (known.map fun s => "`" ++ s ++ "`")
  | time e => e.message

abbrev Decoder (α : Type) := Json → Except DecodeError α

def wrongType {α : Type} (found : Json) (expected : String) : Except DecodeError α :=
  .error (.wrongType found.describe expected)

def decodeString : Decoder String
  | string s => .ok s
  | j => wrongType j "a string"

def decodeUInt64 : Decoder UInt64
  | number (.whole negative n) =>
    if negative then
      if n = 0 ∨ UInt64.size < 2 * n then wrongType (number (.whole negative n)) "u64"
      else .error (.wrongValue (number (.whole negative n)).describe "u64")
    else if n < UInt64.size then .ok (UInt64.ofNat n)
    else wrongType (number (.whole negative n)) "u64"
  | j => wrongType j "u64"

def decodeItems {α : Type} (item : Decoder α) : List Json → Except DecodeError (List α)
  | [] => .ok []
  | j :: js =>
    match item j with
    | .ok x => (decodeItems item js).map (x :: ·)
    | .error e => .error e

def decodeList {α : Type} (item : Decoder α) : Decoder (List α)
  | array js => decodeItems item js
  | j => wrongType j "a sequence"

def decodeOption {α : Type} (value : Decoder α) : Decoder (Option α)
  | null => .ok none
  | j => (value j).map some

/-- One of the known names: a string, or the only field of an object with null as its value. -/
def decodeVariant (known : List String) : Decoder String
  | string s => known? s
  | object [(s, j)] => do
    let s ← known? s
    match j with
    | null => .ok s
    | j => wrongType j "unit"
  | object _ => .error (.wrongValue "map" "map with a single key")
  | j => wrongType j "string or map"
where
  known? (s : String) : Except DecodeError String :=
    if s ∈ known then .ok s else .error (.unknownVariant s known)

/-- The fields in the order of their names, the last of several with one name. -/
def sortedFields (fields : List (String × Json)) : List (String × Json) :=
  fields.foldl insert []
where
  insert (sorted : List (String × Json)) (field : String × Json) : List (String × Json) :=
    match sorted with
    | [] => [field]
    | f :: rest =>
      if field.1 < f.1 then field :: f :: rest
      else if field.1 = f.1 then field :: rest
      else f :: insert rest field

end Json
end LinkShelf
