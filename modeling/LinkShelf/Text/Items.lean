import LinkShelf.Text.White

/-! Comma lists: the form in which tags and collections are typed and kept in a file. -/
namespace LinkShelf
namespace Text

def items (s : String) : List String :=
  (((pieces (· == ',') s.toList).map (strip isWhite)).filter (!·.isEmpty)).map String.ofList

def joinItems (xs : List String) : String := String.intercalate "," xs

end Text
end LinkShelf
