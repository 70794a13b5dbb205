import LinkShelf.Program
import Std.Time.DateTime.Timestamp

/-! The command line. -/
namespace LinkShelf

def FileError.ofSystem : IO.Error → FileError
  | .noFileOrDirectory .. => .notFound
  | .resourceExhausted _ code text => .other code.toNat text
  | .permissionDenied _ code text => .other code.toNat text
  | .alreadyExists _ code text => .other code.toNat text
  | .inappropriateType _ 20 _ => .notADirectory
  | .inappropriateType _ 21 _ => .isADirectory
  | .inappropriateType _ code text => .other code.toNat text
  | .invalidArgument _ code text => .other code.toNat text
  | .otherError code text => .other code.toNat text
  | e => .other 0 (toString e)

def tryFile {α : Type} (x : IO α) : IO (Except FileError α) := do
  match ← x.toBaseIO with
  | .ok a => return .ok a
  | .error e => return .error (.ofSystem e)

/-- The files and the clock of this machine. -/
instance : Host IO where
  status path := tryFile do discard (IO.FS.Handle.mk path .read)
  readFile path := tryFile do return (← IO.FS.readBinFile path).toList
  writeFile path bs := tryFile (IO.FS.writeBinFile path ⟨bs.toArray⟩)
  rename source target := tryFile (IO.FS.rename source target)
  makeDirectories path := tryFile (IO.FS.createDirAll path)
  now := do
    let t ← Std.Time.Timestamp.now
    let s := t.toSecondsSinceUnixEpoch.val
    let nano := (t.toNanosecondsSinceUnixEpoch.val % 1000000000).toNat
    let day := (Time.Date.mk 1970 1 1).toDay + s / 86400
    match Time.Instant.ofParts? day (s % 86400).toNat nano with
    | some t => return t
    | none => throw (IO.userError "the clock shows no time")

end LinkShelf

open LinkShelf in
def main (args : List String) : IO UInt32 := do
  let env : Environment :=
    { basePath := ← IO.getEnv "LINKSEARCH_BASE_PATH", home := ← IO.getEnv "HOME" }
  let outcome ← Program.run env args
  IO.print outcome.output
  IO.eprint outcome.complaint
  return outcome.code
