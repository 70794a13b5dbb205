import LinkShelf.Text.Utf8
import LinkShelf.Time.Instant

/-! What the program needs of the machine it runs on: files and a clock. -/
namespace LinkShelf

inductive FileError where
  | notFound
  | notADirectory
  | isADirectory
  | nameTooLong
  | zeroInName
  /-- Any other error, by its number and text. -/
  | other (code : Nat) (text : String)
  deriving DecidableEq, Repr

def FileError.message : FileError → String
  | notFound => "No such file or directory (os error 2)"
  | notADirectory => "Not a directory (os error 20)"
  | isADirectory => "Is a directory (os error 21)"
  | nameTooLong => "File name too long (os error 36)"
  | zeroInName => "file name contained an unexpected NUL byte"
  | other code text => text ++ " (os error " ++ toString code ++ ")"

/-- The operations on files, named by their paths, and the clock. -/
class Host (m : Type → Type) where
  /-- Succeeds if there is a file or directory at the path. -/
  status : String → m (Except FileError Unit)
  readFile : String → m (Except FileError Bytes)
  /-- Replaces the content of a file, or makes one. -/
  writeFile : String → Bytes → m (Except FileError Unit)
  /-- Moves the first file to the second path, in place of what is there. -/
  rename : String → String → m (Except FileError Unit)
  /-- Makes a directory and those above it that are missing. -/
  makeDirectories : String → m (Except FileError Unit)
  now : m Time.Instant

end LinkShelf
