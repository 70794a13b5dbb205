/-! JSON values. -/
namespace LinkShelf
namespace Json

/-- A number as it is written: a whole number, or `digits` times ten to the `exponent`. -/
inductive Number where
  | whole (negative : Bool) (digits : Nat)
  | real (negative : Bool) (digits : Nat) (exponent : Int)
  deriving DecidableEq, Repr

end Json

/-- A value. The fields of an object keep the order in which they are written. -/
inductive Json where
  | null
  | bool (b : Bool)
  | number (n : Json.Number)
  | string (s : String)
  | array (items : List Json)
  | object (fields : List (String × Json))
  deriving Repr

namespace Json

def ofNat (n : Nat) : Json := number (.whole false n)

def ofStrings (xs : List String) : Json := array (xs.map string)

def field? (name : String) : Json → Option Json
  | object fields => (fields.find? (·.1 == name)).map (·.2)
  | _ => none

end Json
end LinkShelf
