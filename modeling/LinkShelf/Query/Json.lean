import LinkShelf.Json.Basic
import LinkShelf.Query.Condition

/-! Tokens and queries as JSON. -/
namespace LinkShelf
namespace Query

def TokenKind.fields (k : TokenKind) : List (String × Json) :=
  ("type", .string k.name) ::
    match k with
    | text v => [("value", .string v)]
    | qualifier q => [("value", .string q.name)]
    | tag v => [("value", .string v)]
    | not => []
    | endOfQuery => []

def Token.toJson (t : Token) : Json := .object (t.kind.fields ++ [("position", .ofNat t.position)])

def Condition.toJson : Condition → Json
  | text v => .object [("type", .string "text"), ("value", .string v)]
  | qualifier q v =>
    .object [("type", .string "qualifier"), ("qualifier", .string q.name), ("value", .string v)]
  | tag v excluded =>
    .object [("type", .string "tag"), ("value", .string v), ("not", .bool excluded)]

def toJson (q : Query) : Json :=
  .object [("conditions", .array (q.conditions.map Condition.toJson))]

end Query
end LinkShelf
