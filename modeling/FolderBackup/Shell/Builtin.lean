import FolderBackup.Shell.Attributes
import FolderBackup.Shell.Input
import FolderBackup.Shell.Leaving
import FolderBackup.Shell.Lookup
import FolderBackup.Shell.Mask
import FolderBackup.Shell.Places
import FolderBackup.Shell.Question
import FolderBackup.Shell.Saying
import FolderBackup.Shell.Signals
import FolderBackup.Shell.Waiting

/-! Commands of the shell itself.

These are the ones that run no other commands. Each takes arguments and comes to a status. -/
namespace FolderBackup.Shell.Builtin

/-! ### Aliases -/

/-- An alias as the command that makes it. -/
def shownAlias (name text : String) : String :=
  (if name.startsWith "-" then "alias -- " else "alias ") ++ name ++ "=" ++ String.ofList (Quoting.single text.toList) ++ "\n"

/-- Whether a name can be that of an alias. -/
def isAliasName (name : String) : Bool :=
  name.toList.all fun c => !"()<>;&| \t\n\\'\"\x60$/".toList.contains c

/-- `alias` makes aliases and lists them. -/
def makeAliases (arguments : List String) : Action Nat :=
  Usage.taking "alias" "p" "" arguments fun found => do
    if found.rest.isEmpty || found.has 'p' then
      let aliases := (← get).aliases.mergeSort fun a b => decide (a.1 ≤ b.1)
      for (name, text) in aliases do
        let _ ← Action.write "alias" (shownAlias name text)
    let mut status := 0
    for argument in found.rest do
      let name := String.ofList (argument.toList.takeWhile (· ≠ '='))
      if name.length < argument.length && name ≠ "" && !isAliasName name then
        Action.complainAs "alias" ("\x60" ++ name ++ "': invalid alias name")
        status := 1
      else if name.length < argument.length && name ≠ "" then
        let text := String.ofList (argument.toList.drop (name.length + 1))
        modify fun session => { session with
          aliases := (name, text) :: session.aliases.filter (·.1 ≠ name) }
      else match (← get).aliases.lookup argument with
        | some text =>
          let _ ← Action.write "alias" (shownAlias argument text)
        | none =>
          Action.complainAs "alias" (argument ++ ": not found")
          status := 1
    return status

/-- `unalias` removes aliases. -/
def unalias (arguments : List String) : Action Nat :=
  Usage.taking "unalias" "a" "" arguments fun found => do
    if found.has 'a' then
      modify fun session => { session with aliases := [] }
      return 0
    if found.rest.isEmpty then
      Usage.tell "unalias"
      return 2
    let mut status := 0
    for name in found.rest do
      if ((← get).aliases.lookup name).isSome then
        modify fun session => { session with aliases := session.aliases.filter (·.1 ≠ name) }
      else
        Action.complainAs "unalias" (name ++ ": not found")
        status := 1
    return status

/-! ### Telling -/

/-- `caller` tells where the function that is being run was called. -/
def caller (arguments : List String) : Action Nat := do
  let session ← get
  let tell (text : String) : Action Nat := do
    let _ ← Action.write "caller" (text ++ "\n")
    return 0
  Usage.taking "caller" "" "" arguments fun found => do
    match found.rest, session.calls with
    | [], [] => if session.file.isSome then tell "0 NULL" else return 1
    | [], call :: _ => tell (toString call.line ++ " " ++ session.files[1]?.getD "NULL")
    | text :: _, calls =>
      match integer? text.toList with
      | none =>
        Action.complainAs "caller" (text ++ ": invalid number")
        Usage.tell "caller"
        return 2
      | some n =>
        match calls[n.toNat]?, session.files[n.toNat + 1]? with
        | some call, some file =>
          let outer := ((calls[n.toNat + 1]?).map fun call => call.name).getD "main"
          tell (toString call.line ++ " " ++ outer ++ " " ++ file)
        | _, _ => return 1

/-- `enable` wants commands of the shell. -/
def enable (arguments : List String) : Action Nat :=
  Usage.taking "enable" "adnps" "f" arguments fun found => do
    let mut status := 0
    for name in found.rest do
      if !Lookup.builtins.contains name then
        Action.complainAs "enable" (name ++ ": not a shell builtin")
        status := 1
    if found.rest.isEmpty then
      for name in Lookup.builtins do
        let _ ← Action.write "enable" ("enable " ++ name ++ "\n")
    return status

/-- `help` knows the commands of the shell. -/
def help (arguments : List String) : Action Nat :=
  Usage.taking "help" "dms" "" arguments fun found => do
    let mut status := 0
    for name in found.rest do
      if !Lookup.builtins.contains name then
        Action.complainAs "help" ("no help topics match \x60" ++ name ++
          "'.  Try \x60help help' or \x60man -k " ++ name ++ "' or \x60info " ++ name ++ "'.")
        status := 1
    return status

/-- `ulimit` shows that nothing is limited. -/
def ulimit (arguments : List String) : Action Nat :=
  Usage.taking "ulimit" "SHabcdefiklmnpqrstuvxPRT" "" arguments fun found => do
    if found.rest.isEmpty then
      let _ ← Action.write "ulimit" "unlimited\n"
    return 0

/-- `times` shows how long the script has run. -/
def times : Action Nat := do
  let _ ← Action.write "times" "0m0.000s 0m0.000s\n0m0.000s 0m0.000s\n"
  return 0

/-! ### Calculating -/

/-- `let` calculates; its status is one if the last value is zero. -/
def calculate (means : Expansion.Means) (arguments : List String) : Action Nat := do
  let arguments := Leaving.operands arguments
  if arguments.isEmpty then
    Action.complainAs "let" "expression expected"
    return 1
  let mut status := 1
  for text in arguments do
    match ← Action.attempt (Arithmetic.valueOf (Expansion.brackets means) "let" text) with
    | .ok n => status := if n = 0 then 1 else 0
    | .error .noValue => return 1
    | .error how => throw how
  return status

/-- A question between brackets. -/
def bracket (means : Expansion.Means) (arguments : List String) : Action Nat := do
  if arguments.getLast? = some "]" then Question.status means "]" "[" arguments.dropLast
  else
    Action.complainAs "[" "missing \x60]'"
    return 2

/-! ### All of them -/

/-- The arguments of a command that declares variables, as texts. -/
def declaredAs (run : List Declaring.Declared → Action Nat) (arguments : List String) :
    Action Nat :=
  run (arguments.map Declaring.ofText)

/-- What a command does with its arguments, if there is one of that name that runs no others. -/
def find? (means : Expansion.Means) (name : String) : Option (List String → Action Nat) :=
  match name with
  | ":" => some fun _ => return 0
  | "true" => some fun _ => return 0
  | "false" => some fun _ => return 1
  | "echo" => some Saying.echo
  | "printf" => some (Saying.printf means)
  | "test" => some (Question.status means "" "test")
  | "[" => some (bracket means)
  | "let" => some (calculate means)
  | "read" => some (Input.read means)
  | "set" => some Switches.set
  | "shopt" => some Switches.shopt
  | "getopts" => some Switches.getopts
  | "shift" => some Leaving.shift
  | "exit" => some Leaving.exit
  | "return" => some Leaving.returning
  | "break" => some (Leaving.leave "break" .broken)
  | "continue" => some (Leaving.leave "continue" .continued)
  | "declare" => some (declaredAs (Attributes.declare means "declare"))
  | "typeset" => some (declaredAs (Attributes.declare means "typeset"))
  | "local" => some (declaredAs (Attributes.declare means "local"))
  | "export" => some (declaredAs (Attributes.mark means "export" 'x'))
  | "readonly" => some (declaredAs (Attributes.mark means "readonly" 'r'))
  | "unset" => some (Attributes.unset means)
  | "cd" => some Places.cd
  | "pwd" => some Places.pwd
  | "dirs" => some Places.dirs
  | "pushd" => some Places.pushd
  | "popd" => some Places.popd
  | "kill" => some fun arguments => Signals.kill arguments none
  | "trap" => some Signals.trap
  | "umask" => some Mask.umask
  | "wait" => some Waiting.wait
  | "type" => some Lookup.type
  | "hash" => some Lookup.hash
  | "alias" => some makeAliases
  | "unalias" => some unalias
  | "caller" => some caller
  | "enable" => some enable
  | "help" => some help
  | "ulimit" => some ulimit
  | "times" => some fun _ => times
  | "jobs" => some fun _ => return 0
  | "history" => some fun _ => return 0
  | "fc" => some fun _ => return 0
  | "complete" => some fun _ => return 0
  | "compopt" => some fun _ => return 1
  | "compgen" => some fun _ => return 1
  | "bind" => some fun _ => do
    Action.complainAs "bind" "warning: line editing not enabled"
    return 0
  | "fg" => some fun _ => Waiting.useless "fg" "no job control"
  | "bg" => some fun _ => Waiting.useless "bg" "no job control"
  | "disown" => some fun _ => Waiting.useless "disown" "current: no such job"
  | "suspend" => some fun _ => Waiting.useless "suspend" "cannot suspend: no job control"
  | "logout" => some fun _ => Waiting.useless "logout" "not login shell: use \x60exit'"
  | _ => none

end FolderBackup.Shell.Builtin
