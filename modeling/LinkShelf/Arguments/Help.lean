import LinkShelf.Command

/-! The texts that explain the arguments of the program. -/
namespace LinkShelf
namespace Arguments

def upperName (name : String) : String := name.map Char.toUpper

def Flag.usage (f : Flag) : String :=
  "--" ++ f.name ++ (if f.takesValue then " <" ++ upperName f.name ++ ">" else "")

def Flag.column (f : Flag) : String :=
  (match f.short with
    | some c => "-" ++ c.toString ++ ", "
    | none => "    ") ++ f.usage

def columns (rows : List (String × String)) : String :=
  let width := rows.foldl (fun n r => max n r.1.length) 0
  String.join <| rows.map fun (a, b) =>
    "  " ++ a ++ String.ofList (List.replicate (width - a.length + 2) ' ') ++ b ++ "\n"

def Form.usage (form : Form) : String :=
  let required := form.flags.filter (·.required)
  let free := form.flags.filter fun f => !f.required && f.kind != .help && f.kind != .version
  "Usage: linksearch " ++ form.name ++ (if free.isEmpty then "" else " [OPTIONS]") ++
    String.join (required.map fun f => " " ++ f.usage) ++
    (match form.operand with
      | some name => " <" ++ upperName name ++ ">"
      | none => "") ++ "\n"

def commandList : String :=
  columns <|
    (Command.Verb.all.map fun v => (v.name, v.form.about)) ++
      [("help", "Print this message or the help of the given subcommand(s)")]

def Form.help (form : Form) : String :=
  (if form.about.isEmpty then "" else form.about ++ "\n\n") ++
    (if form.name.isEmpty then "Usage: linksearch <COMMAND>\n\nCommands:\n" ++ commandList
      else form.usage) ++
    (match form.operand with
      | some name =>
        "\nArguments:\n" ++ columns [("<" ++ upperName name ++ ">", form.operandAbout)]
      | none => "") ++
    "\nOptions:\n" ++ columns (form.flags.map fun f => (f.column, f.about))

def Refusal.message : Refusal → String
  | noCommand => Command.programForm.help
  | unknownCommand name => "unrecognized subcommand '" ++ name ++ "'"
  | unknownArgument text => "unexpected argument '" ++ text ++ "' found"
  | missing name => "the required argument '" ++ name ++ "' was not provided"
  | noValue flag => "a value is required for '--" ++ flag ++ "' but none was supplied"
  | needlessValue flag => "unexpected value for '--" ++ flag ++ "' found"
  | notANumber flag value e =>
    "invalid value '" ++ value ++ "' for '--" ++ flag ++ "': " ++ e.message
  | repeated flag => "the argument '--" ++ flag ++ "' cannot be used multiple times"
  | help form => form.help
  | version => "linksearch 0.1.0\n"

def Refusal.isRequest : Refusal → Bool
  | help _ => true
  | version => true
  | _ => false

def Refusal.text (r : Refusal) : String :=
  match r with
  | noCommand | help _ | version => r.message
  | _ => "error: " ++ r.message ++ "\n\nFor more information, try '--help'.\n"

end Arguments
end LinkShelf
