import LinkShelf.Yaml.Node

/-! What scalars stand for: nothing, a truth value, a number. -/
namespace LinkShelf
namespace Yaml

def coreTag (name : String) : String := "tag:yaml.org,2002:" ++ name

namespace Scalar

/-- Whether a scalar may stand for something else than text: if it is plain, or a literal block with
the tag of the type. -/
def mayBe (s : Scalar) (type : String) : Bool :=
  s.style == .plain || (s.style == .literal && s.tag == some (coreTag type))

def bool? (s : Scalar) : Option Bool :=
  if !s.mayBe "bool" then none
  else if ["true", "True", "TRUE"].contains s.text then some true
  else if ["false", "False", "FALSE"].contains s.text then some false
  else none

def ofDigits? (base : Nat) (cs : List Char) : Option UInt64 :=
  let push (n : Nat) (c : Char) : Option Nat := do
    let d ← Json.hexValue? c
    if d < base && base * n + d < UInt64.size then some (base * n + d) else none
  if cs.isEmpty then none else (cs.foldlM push 0).map UInt64.ofNat

/-- A number below 2^64 with an optional plus sign. A zero in front of other digits announces
another base. -/
def uint64? (s : Scalar) : Option UInt64 :=
  if !s.mayBe "int" then none
  else
    let cs := s.text.toList
    match if cs.head? == some '+' then cs.tail else cs with
    | '0' :: 'x' :: ds => ofDigits? 16 ds
    | '0' :: 'o' :: ds => ofDigits? 8 ds
    | '0' :: 'b' :: ds => ofDigits? 2 ds
    | '0' :: _ :: _ => none
    | ds => ofDigits? 10 ds

def isNullWord (s : Scalar) : Bool := ["null", "Null", "NULL", "~"].contains s.text

/-- Whether a scalar stands for nothing. With the tag of null it must. -/
def isNull? (s : Scalar) : Option Bool :=
  if s.style != .plain then some false
  else
    match s.tag with
    | none => some (s.text.isEmpty || s.isNullWord)
    | some tag =>
      if tag != coreTag "null" then some false else if s.isNullWord then some true else none

def optionalUInt64? (s : Scalar) : Option (Option UInt64) := do
  if ← s.isNull? then some none else s.uint64?.map some

end Scalar

namespace Document

def valuesOf (d : Document) (entries : List (Node × Node)) (name : String) : List Node :=
  (entries.filter fun e => (d.scalar? e.1).any (·.text == name)).map (·.2)

/-- The value of a field as `read` finds it, the default if the field is missing. There must not be
two of them. -/
def field? {α : Type} (d : Document) (entries : List (Node × Node)) (name : String)
    (read : Scalar → Option α) (default : α) : Option α :=
  match d.valuesOf entries name with
  | [] => some default
  | [v] => (d.scalar? v).bind read
  | _ => none

end Document
end Yaml
end LinkShelf
