import LinkShelf.Query.Condition

/-! The grammar of token lists: texts, qualifiers with or without a text behind them, tags and
negated tags in any order, then the end of the query. -/
namespace LinkShelf
namespace Query

inductive ParseError where
  | emptyTokenList
  | unexpectedToken (token : Token)
  | unexpectedEnd (position : Nat)
  deriving DecidableEq, Repr

def ParseError.message : ParseError → String
  | emptyTokenList => "cannot parse an empty token list"
  | unexpectedToken t =>
    "unexpected token " ++ t.kind.name ++ " at position " ++ toString t.position
  | unexpectedEnd p => "unexpected end of tokens after position " ++ toString p

/-- The conditions of a token list whose last token is at `last`. A qualifier without a text behind
it is its own name as a text. -/
def readConditions (last : Nat) : List Token → Except ParseError (List Condition)
  | [] => .error (.unexpectedEnd last)
  | ⟨.endOfQuery, _⟩ :: [] => .ok []
  | ⟨.endOfQuery, _⟩ :: t :: _ => .error (.unexpectedToken t)
  | ⟨.text v, _⟩ :: ts => (readConditions last ts).map (.text v :: ·)
  | ⟨.qualifier q, _⟩ :: ⟨.text v, _⟩ :: ts => (readConditions last ts).map (.qualifier q v :: ·)
  | ⟨.qualifier q, _⟩ :: ts => (readConditions last ts).map (.text q.name :: ·)
  | ⟨.tag v, _⟩ :: ts => (readConditions last ts).map (.tag v false :: ·)
  | ⟨.not, _⟩ :: ⟨.tag v, _⟩ :: ts => (readConditions last ts).map (.tag v true :: ·)
  | ⟨.not, _⟩ :: t :: _ => .error (.unexpectedToken t)
  | ⟨.not, _⟩ :: [] => .error (.unexpectedEnd last)

def parse (ts : List Token) : Except ParseError Query :=
  match ts.getLast? with
  | none => .error .emptyTokenList
  | some t => (readConditions t.position ts).map Query.mk

def ofString (input : String) : Except ParseError Query := parse (tokenize input)

end Query
end LinkShelf
