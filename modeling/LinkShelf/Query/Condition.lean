import LinkShelf.Query.Token

/-! What a search asks for: a list of conditions, in the order in which they were typed. -/
namespace LinkShelf
namespace Query

inductive Condition where
  | text (value : String)
  | qualifier (q : Qualifier) (value : String)
  | tag (name : String) (excluded : Bool)
  deriving DecidableEq, Repr

inductive ConditionKind where
  | any
  | text
  | qualifier
  | tag
  deriving DecidableEq, Repr

namespace Condition

def isKind : ConditionKind → Condition → Bool
  | .any, _ => true
  | .text, text _ => true
  | .qualifier, qualifier .. => true
  | .tag, tag .. => true
  | _, _ => false

def value : Condition → String
  | text v => v
  | qualifier _ v => v
  | tag v _ => v

def qualifier? : Condition → Option Qualifier
  | qualifier q _ => some q
  | _ => none

def isExcluded : Condition → Bool
  | tag _ excluded => excluded
  | _ => false

end Condition
end Query

open Query in
structure Query where
  conditions : List Condition := []
  deriving DecidableEq, Repr

namespace Query

def isEmpty (q : Query) : Bool := q.conditions.isEmpty

def add (q : Query) (c : Condition) : Query := ⟨q.conditions ++ [c]⟩

def select (q : Query) (kind : ConditionKind) : List Condition :=
  q.conditions.filter (·.isKind kind)

/-- The whole input as one text, trimmed; no condition if it is blank. -/
def literal (input : String) : Query :=
  let text := Text.trim input
  if text.isEmpty then {} else ⟨[.text text]⟩

end Query
end LinkShelf
