import FolderBackup.Shell.Arithmetic

/-! Giving texts to variables.

What a variable of numbers is given is an expression. A text that is added to an old one follows it,
or is added to its number. -/
namespace FolderBackup.Shell.Assigning

variable (subscripts : Arithmetic.Subscripts)

/-- The value of an expression; the rest of the line is given up if it has none. -/
def number (command text : String) : Action Int := do
  match ← Action.attempt (Arithmetic.valueOf subscripts command text) with
  | .ok n => return n
  | .error .noValue =>
    Action.setStatus 1
    throw .discarded
  | .error how => throw how

/-- Whether what a variable is given is an expression. -/
def isInteger (name : String) : Action Bool := do
  let session ← get
  return (session.meant? name).any (·.isInteger)

/-- The text that a slot holds after it is given another. -/
def textAfter (name : String) (slot : Slot) (adds : Bool) (text : String) : Action String := do
  let held ← if adds then Action.textAt? name slot else pure none
  let old := held.getD ""
  if ← isInteger name then
    let command := (← get).commandName
    let before ← if adds then number subscripts command old else pure 0
    let new ← number subscripts command text
    return toString (wrapped (before + new))
  else return old ++ text

/-- Gives a slot of a variable a text; whether it could be given. -/
def give (name : String) (slot : Slot) (adds : Bool) (text : String) : Action Bool := do
  Action.putAt name slot (← textAfter subscripts name slot adds text)

/-- Gives a variable, or what stands between brackets after its name, a text; whether it could be
given. -/
def giveTo (name : String) (subscript : Option Raw) (adds : Bool) (text : String) :
    Action Bool := do
  let (name, subscript) := (← get).ledTo name subscript
  match subscript with
  | none => give subscripts name .whole adds text
  | some raw =>
    match ← Arithmetic.slot subscripts name raw false with
    | some slot => give subscripts name slot adds text
    | none => return false

end FolderBackup.Shell.Assigning
