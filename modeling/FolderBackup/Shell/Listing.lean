import FolderBackup.Shell.Variables

/-! How variables are listed.

A variable is shown as the command that would make it again: its attributes as letters, its name,
and its value in quotes. -/
namespace FolderBackup.Shell

/-- A text between double quotes. -/
def Quoting.doubled (text : List Char) : List Char :=
  '"' :: (text.flatMap fun c =>
    if c = '$' ∨ c = '"' ∨ c = '\\' ∨ c = '\x60' then ['\\', c] else [c]) ++ ['"']

namespace Listing

/-- A text as the value of a variable that is listed. -/
def item (text : String) : String :=
  String.ofList (if Quoting.needsEscapes text.toList then Quoting.escaped text.toList
    else Quoting.doubled text.toList)

/-- A name that a table has a text under. -/
def key (name : String) : String :=
  if Quoting.needsEscapes name.toList then String.ofList (Quoting.escaped name.toList)
  else if Quoting.needsQuotes name.toList || name == "@" then
    String.ofList (Quoting.doubled name.toList)
  else name

/-- Texts in parentheses, each with what it is under. -/
def compound (value : Value) : String :=
  let entry (shown : String) (text : String) : String := "[" ++ shown ++ "]=" ++ item text
  match value with
  | .table _ =>
    "(" ++ String.join (value.entries.map fun (name, text) => entry (key name) text ++ " ") ++ ")"
  | value =>
    "(" ++ String.intercalate " " (value.entries.map fun (index, text) => entry index text) ++ ")"

/-- A value as the command that makes a variable has it. -/
def value : Value → Option String
  | .unset => none
  | .text single => some (item single)
  | other => some (compound other)

/-- The letters of a variable's attributes. -/
def letters (held : Variable) : String :=
  (if held.value.isList then "a" else "") ++ (if held.value.isTable then "A" else "") ++
    (if held.isInteger then "i" else "") ++ (if held.refers then "n" else "") ++
    (if held.isReadonly then "r" else "") ++ (if held.isTraced then "t" else "") ++
    (if held.isExported then "x" else "") ++
    match held.letters with
    | .asGiven => ""
    | .lower => "l"
    | .upper => "u"
    | .capital => "c"

/-- The command that makes a variable again. -/
def declaration (name : String) (held : Variable) : String :=
  let attributes := letters held
  "declare -" ++ (if attributes = "" then "-" else attributes) ++ " " ++ name ++
    if held.isGiven then ((value held.value).map ("=" ++ ·)).getD "" else ""

/-- A text as a value to be assigned. -/
def plainItem (text : String) : String :=
  if Quoting.needsEscapes text.toList then String.ofList (Quoting.escaped text.toList)
  else if Quoting.needsQuotes text.toList then String.ofList (Quoting.single text.toList)
  else text

/-- A text as it is shown before a command is run. -/
def tracedItem (text : String) : String :=
  if text = "" then ""
  else if Quoting.needsQuotes text.toList then String.ofList (Quoting.single text.toList)
  else if Quoting.needsEscapes text.toList then String.ofList (Quoting.escaped text.toList)
  else text

/-- The assignment that gives a variable its value again. -/
def assignment (name : String) (held : Variable) : Option String :=
  match held.value, held.isGiven with
  | .text single, _ => some (name ++ "=" ++ plainItem single)
  | .unset, _ => none
  | other, true => some (name ++ "=" ++ compound other)
  | _, false => none

end Listing

namespace Session

/-- The variables that can be seen, each once, by their names. -/
def visible (session : Session) : List (String × Variable) :=
  let names := (session.frames.flatMap fun frame => frame.bindings.map Prod.fst).eraseDups
  let names := names.mergeSort fun a b => decide (a ≤ b)
  (names.filter (· ≠ "-")).filterMap fun name => (session.held? name).map fun held => (name, held)

end Session

end FolderBackup.Shell
