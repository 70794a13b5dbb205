import LinkShelf.Host.Basic
import LinkShelf.Text.White

/-! A machine as a value: a tree of files and directories, and a clock that is read once at a
time. -/
namespace LinkShelf

inductive Node where
  | file (content : Bytes)
  | directory
  deriving DecidableEq, Repr

abbrev Place := List String

/-- The tree, and what the clock shows at each reading. The working directory is the root. -/
structure Machine where
  node : Place → Option Node
  clock : Nat → Time.Instant
  readings : Nat := 0

namespace Machine

def set (d : Machine) (p : Place) (n : Option Node) : Machine :=
  { d with node := fun q => if q = p then n else d.node q }

/-- The machine without a place and everything below it. -/
def remove (d : Machine) (p : Place) : Machine :=
  { d with node := fun q => if p.isPrefixOf q then none else d.node q }

@[simp] theorem set_node (d : Machine) (p q : Place) (n : Option Node) :
    (d.set p n).node q = if q = p then n else d.node q := rfl

@[simp] theorem set_clock (d : Machine) (p : Place) (n : Option Node) :
    (d.set p n).clock = d.clock := rfl

def lookUp (d : Machine) (p : Place) : Option Node :=
  if p.isEmpty then some .directory else d.node p

def names (path : String) : List String :=
  (Text.pieces (· == '/') path.toList).map String.ofList

def tooLong (name : String) : Bool := 255 < name.utf8ByteSize

/-- The place that names lead to. Every place on the way must be a directory. -/
def walk (d : Machine) (here : Place) : List String → Except FileError Place
  | [] => .ok here
  | name :: rest =>
    match d.lookUp here with
    | none => .error .notFound
    | some (.file _) => .error .notADirectory
    | some .directory =>
      if name = "" ∨ name = "." then d.walk here rest
      else if name = ".." then d.walk here.dropLast rest
      else if tooLong name then .error .nameTooLong
      else d.walk (here ++ [name]) rest

def locate (d : Machine) (path : String) : Except FileError Place :=
  if path.isEmpty then .error .notFound
  else if path.toList.contains '\x00' then .error .zeroInName
  else if 4096 ≤ path.utf8ByteSize then .error .nameTooLong
  else d.walk [] (names path)

def status (d : Machine) (path : String) : Except FileError Unit :=
  match d.locate path with
  | .error e => .error e
  | .ok p => if (d.lookUp p).isSome then .ok () else .error .notFound

def readFile (d : Machine) (path : String) : Except FileError Bytes :=
  match d.locate path with
  | .error e => .error e
  | .ok p =>
    match d.lookUp p with
    | none => .error .notFound
    | some .directory => .error .isADirectory
    | some (.file bs) => .ok bs

/-- Whether a path ends in a slash and its last name is to be looked for in a directory that is
there. -/
def asksForDirectory (d : Machine) (path : String) : Bool :=
  path.endsWith "/" && !path.toList.contains '\x00' && path.utf8ByteSize < 4096 &&
    match d.walk [] ((names path).reverse.dropWhile (· == "")).tail.reverse with
    | .error _ => false
    | .ok p => d.lookUp p == some .directory

/-- The place of a path to be written, where nothing or a file is; its directory must be there. -/
def locateFile (d : Machine) (path : String) : Except FileError Place :=
  match d.locate path with
  | .error e => .error (if d.asksForDirectory path then .isADirectory else e)
  | .ok p =>
    match d.lookUp p with
    | some .directory => .error .isADirectory
    | _ => .ok p

def writeFile (d : Machine) (path : String) (bs : Bytes) : Except FileError Unit × Machine :=
  match d.locateFile path with
  | .error e => (.error e, d)
  | .ok p => (.ok (), d.set p (some (.file bs)))

def rename (d : Machine) (source target : String) : Except FileError Unit × Machine :=
  match d.locate source with
  | .error e => (.error e, d)
  | .ok p =>
    match d.lookUp p with
    | none => (.error .notFound, d)
    | some .directory => (.error .isADirectory, d)
    | some (.file bs) =>
      match d.locateFile target with
      | .error e => (.error (if d.asksForDirectory target then .notADirectory else e), d)
      | .ok q => (.ok (), (d.set p none).set q (some (.file bs)))

def makeOnWay (d : Machine) (here : Place) : List String → Except FileError Unit × Machine
  | [] => (.ok (), d)
  | name :: rest =>
    if name = "" ∨ name = "." then d.makeOnWay here rest
    else if name = ".." then d.makeOnWay here.dropLast rest
    else if tooLong name then (.error .nameTooLong, d)
    else
      match d.lookUp (here ++ [name]) with
      | some .directory => d.makeOnWay (here ++ [name]) rest
      | some (.file _) =>
        (.error (if rest.isEmpty then .other 17 "File exists" else .notADirectory), d)
      | none => (d.set (here ++ [name]) (some .directory)).makeOnWay (here ++ [name]) rest

def makeDirectories (d : Machine) (path : String) : Except FileError Unit × Machine :=
  if path.toList.contains '\x00' then (.error .zeroInName, d)
  else if 4096 ≤ path.utf8ByteSize then (.error .nameTooLong, d)
  else d.makeOnWay [] (names path)

instance : Host (StateM Machine) where
  status path := do return (← get).status path
  readFile path := do return (← get).readFile path
  writeFile path bs := modifyGet (·.writeFile path bs)
  rename source target := modifyGet (·.rename source target)
  makeDirectories path := modifyGet (·.makeDirectories path)
  now := modifyGet fun d => (d.clock d.readings, { d with readings := d.readings + 1 })

end Machine
end LinkShelf
