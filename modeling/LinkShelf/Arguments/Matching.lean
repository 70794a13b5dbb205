import LinkShelf.Arguments.Form

/-! Matching the arguments of a command with its form. -/
namespace LinkShelf
namespace Arguments

inductive Refusal where
  | noCommand
  | unknownCommand (name : String)
  | unknownArgument (text : String)
  | missing (name : String)
  /-- A flag without the value that it takes. -/
  | noValue (flag : String)
  /-- A value for a flag that takes none. -/
  | needlessValue (flag : String)
  | notANumber (flag value : String) (e : Text.NumberError)
  | repeated (flag : String)
  /-- Help is asked for, on the program or on a command. -/
  | help (form : Form)
  | version
  deriving DecidableEq, Repr

inductive Shape where
  | plain
  /-- Two dashes, behind which there are no flags. -/
  | dashes
  | long (name : String) (value : Option String)
  | short (letters : List Char)
  deriving DecidableEq, Repr

/-- The shape of an argument. A single dash is plain. -/
def shape (a : String) : Shape :=
  match a.toList with
  | ['-', '-'] => .dashes
  | '-' :: '-' :: cs =>
    let name := String.ofList (cs.takeWhile (· != '='))
    match cs.dropWhile (· != '=') with
    | [] => .long name none
    | _ :: value => .long name (some (String.ofList value))
  | ['-'] => .plain
  | '-' :: cs => .short cs
  | _ => .plain

/-- What is matched so far. The last flag may wait for its value, or for the value to be looked at
when the next argument is known. -/
structure Matching where
  operand : Option String := none
  values : List (String × String) := []
  waiting : Option (Flag × Option String) := none
  deriving DecidableEq, Repr

namespace Matching

def store (m : Matching) (f : Flag) (v : String) : Except Refusal Matching :=
  if (m.values.lookup f.name).isSome then .error (.repeated f.name)
  else
    match f.kind, Text.readUInt64 v with
    | .number, .error e => .error (.notANumber f.name v e)
    | _, _ => .ok { m with values := (f.name, v) :: m.values }

def settle (m : Matching) : Except Refusal Matching :=
  match m.waiting with
  | none => .ok m
  | some (f, none) => .error (.noValue f.name)
  | some (f, some v) => { m with waiting := none }.store f v

def takeFlag (form : Form) (m : Matching) (f : Flag) (v : Option String) :
    Except Refusal Matching := do
  let m ← m.settle
  match f.kind, v with
  | .help, _ => throw (.help form)
  | .version, _ => throw .version
  | .switch, _ => m.store f ""
  | _, some v => m.store f v
  | _, none => return { m with waiting := some (f, none) }

def takeLong (form : Form) (m : Matching) (name : String) (v : Option String) :
    Except Refusal Matching :=
  match form.long? name with
  | none => .error (.unknownArgument ("--" ++ name))
  | some f =>
    if v.isSome && !f.takesValue then .error (.needlessValue name) else takeFlag form m f v

/-- Takes the letters behind a dash. The value of a flag may follow its letter. -/
def takeShort (form : Form) (m : Matching) : List Char → Except Refusal Matching
  | [] => .ok m
  | c :: cs =>
    match form.short? c with
    | none => .error (.unknownArgument (String.ofList ['-', c]))
    | some f =>
      if f.takesValue then
        let v := if cs.head? == some '=' then cs.tail else cs
        takeFlag form m f (if cs.isEmpty then none else some (String.ofList v))
      else do takeShort form (← takeFlag form m f none) cs

def takeOperand (form : Form) (m : Matching) (a : String) : Except Refusal Matching := do
  if form.operand.isSome && m.operand.isNone then
    return { ← m.settle with operand := some a }
  else throw (.unknownArgument a)

def takePlain (form : Form) (m : Matching) (a : String) : Except Refusal Matching :=
  match m.waiting with
  | some (f, none) => .ok { m with waiting := some (f, some a) }
  | _ => m.takeOperand form a

/-- Takes all arguments; `bare` means that flags are over. -/
def takeAll (form : Form) (bare : Bool) (m : Matching) : List String → Except Refusal Matching
  | [] => m.settle
  | a :: as =>
    if bare then do takeAll form true (← m.takeOperand form a) as
    else
      match shape a with
      | .dashes => takeAll form true m as
      | .plain => do takeAll form false (← m.takePlain form a) as
      | .long name v => do takeAll form false (← m.takeLong form name v) as
      | .short cs => do takeAll form false (← m.takeShort form cs) as

def text? (m : Matching) (name : String) : Option String := m.values.lookup name

def number? (m : Matching) (name : String) : Option UInt64 :=
  (m.text? name).bind fun v => (Text.readUInt64 v).toOption

def isOn (m : Matching) (name : String) : Bool := (m.text? name).isSome

def missing? (form : Form) (m : Matching) : Option String :=
  if form.operand.isSome && m.operand.isNone then form.operand
  else ((form.flags.filter (·.required)).map (·.name)).find? fun name => !m.isOn name

end Matching

/-- The arguments of a command as its form has them. -/
def Form.read (form : Form) (args : List String) : Except Refusal Matching := do
  let m ← Matching.takeAll form false {} args
  match m.missing? form with
  | some name => throw (.missing name)
  | none => return m

end Arguments
end LinkShelf
