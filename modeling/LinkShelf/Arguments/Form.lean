import LinkShelf.Text.Natural

/-! The forms of commands: which flags they have, and whether they have an operand. -/
namespace LinkShelf
namespace Arguments

inductive FlagKind where
  | text
  | number
  | switch
  | help
  | version
  deriving DecidableEq, Repr

structure Flag where
  name : String
  short : Option Char := none
  kind : FlagKind := .text
  required : Bool := false
  about : String := ""
  deriving DecidableEq, Repr

def Flag.takesValue (f : Flag) : Bool := f.kind == .text || f.kind == .number

/-- The flags of a command, and the name of its operand if it has one. -/
structure Form where
  name : String
  about : String := ""
  operand : Option String := none
  operandAbout : String := ""
  flags : List Flag := []
  deriving DecidableEq, Repr

def helpFlag : Flag :=
  { name := "help", short := some 'h', kind := .help, about := "Print help" }

def Form.long? (form : Form) (name : String) : Option Flag := form.flags.find? (·.name == name)

def Form.short? (form : Form) (c : Char) : Option Flag := form.flags.find? (·.short == some c)

end Arguments
end LinkShelf
