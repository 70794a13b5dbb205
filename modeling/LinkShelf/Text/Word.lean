import LinkShelf.Text.WordTable
import LinkShelf.Text.White

/-! Word characters. -/
namespace LinkShelf
namespace Text

def isWordChar (c : Char) : Bool := inRanges c.toNat wordRanges

@[simp] theorem isWordChar_quote : isWordChar '"' = false := by decide
@[simp] theorem isWordChar_backslash : isWordChar '\\' = false := by decide
@[simp] theorem isWordChar_colon : isWordChar ':' = false := by decide
@[simp] theorem isWordChar_hash : isWordChar '#' = false := by decide

end Text
end LinkShelf
