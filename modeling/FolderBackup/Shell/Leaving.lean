import FolderBackup.Shell.Usage

/-! Leaving.

A script, a function or a loop is left before its end, with a status. -/
namespace FolderBackup.Shell.Leaving

/-- Some arguments without the sign that ends options. -/
def operands (arguments : List String) : List String :=
  if arguments.head? = some "--" then arguments.tail else arguments

/-- The status that an argument names. -/
def statusOf (command : String) (arguments : List String) : Action Nat := do
  match operands arguments with
  | [] => return (← get).status
  | text :: rest =>
    match integer? text.toList with
    | none =>
      Action.complainAs command (text ++ ": numeric argument required")
      return 2
    | some n => if rest.isEmpty then return (n % 256).toNat else Usage.tooMany command

/-- `exit` ends the script. -/
def exit (arguments : List String) : Action Nat := do
  throw (.exit (← statusOf "exit" arguments))

/-- `return` ends the function that is being run, or the file. -/
def returning (arguments : List String) : Action Nat := do
  let session ← get
  if session.calls.isEmpty then
    Action.complainAs "return" "can only \x60return' from a function or sourced script"
    return 2
  throw (.returned (← statusOf "return" arguments))

/-- `break` and `continue` leave loops. -/
def leave (command : String) (finish : Nat → Finish) (arguments : List String) : Action Nat := do
  let session ← get
  if session.loops = 0 then
    Action.complainAs command "only meaningful in a \x60for', \x60while', or \x60until' loop"
    return 0
  let leave (outer : Nat) : Action Nat := do
    Action.setStatus 0
    throw (finish outer)
  match operands arguments with
  | [] => leave 0
  | text :: rest =>
    match integer? text.toList with
    | none => Usage.needsNumber command text
    | some n =>
      if !rest.isEmpty then Usage.tooMany command
      else if n ≤ 0 then
        Action.complainAs command (text ++ ": loop count out of range")
        Action.setStatus 1
        throw (.broken (session.loops - 1))
      else leave (min n.toNat session.loops - 1)

/-- `shift` drops the first arguments. -/
def shift (arguments : List String) : Action Nat := do
  let session ← get
  let drop (shown : String) (n : Int) : Action Nat := do
    if n < 0 then
      Action.complainAs "shift" (shown ++ ": shift count out of range")
      return 1
    else if session.arguments.length < n.toNat then
      if session.isOn "shift_verbose" then
        Action.complainAs "shift" (shown ++ ": shift count out of range")
      return 1
    else
      set { session with arguments := session.arguments.drop n.toNat }
      return 0
  match operands arguments with
  | [] => drop "1" 1
  | text :: rest =>
    match integer? text.toList with
    | none =>
      Action.complainAs "shift" (text ++ ": numeric argument required")
      return 1
    | some n => if rest.isEmpty then drop text n else Usage.tooMany "shift"

end FolderBackup.Shell.Leaving
