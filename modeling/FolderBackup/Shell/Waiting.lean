import FolderBackup.Shell.Usage
import FolderBackup.Shell.Variables

/-! Processes in the background.

A process in the background has a number and, once it is over, a status that can be asked for. -/
namespace FolderBackup.Shell.Waiting

/-- The process that an argument counts off, the first of them at one. -/
def counted? (session : Session) (digits : List Char) : Option (Nat × Nat) :=
  let jobs := session.jobs.reverse
  if digits = ['%'] ∨ digits = ['+'] ∨ digits = [] then jobs.getLast?
  else if isDigits digits ∧ 0 < valueOf 10 digits then jobs[valueOf 10 digits - 1]?
  else none

/-- The status of a process that an argument names. -/
def one (argument : String) : Action Nat := do
  let session ← get
  match argument.toList with
  | '%' :: digits =>
    match counted? session digits with
    | some (_, status) => return status
    | none =>
      Action.complainAs "wait" (argument ++ ": no such job")
      return 127
  | digits =>
    if isDigits digits then
      match session.jobs.lookup (valueOf 10 digits) with
      | some status => return status
      | none =>
        Action.complainAs "wait" ("pid " ++ argument ++ " is not a child of this shell")
        return 127
    else
      Action.complainAs "wait" ("\x60" ++ argument ++ "': not a pid or valid job spec")
      return 1

/-- `wait` waits for processes; its status is that of the last. -/
def wait (arguments : List String) : Action Nat :=
  Usage.taking "wait" "fn" "p" arguments fun found => do
    let session ← get
    if found.has 'n' && found.rest.isEmpty then
      match session.jobs.getLast? with
      | some (_, status) =>
        set { session with jobs := session.jobs.dropLast }
        return status
      | none => return 127
    else if found.rest.isEmpty then
      set { session with jobs := [] }
      return 0
    else
      let mut status := 0
      for argument in found.rest do
        status ← one argument
      return status

/-- A command that is of no use where there is nobody at a terminal. -/
def useless (command text : String) : Action Nat := do
  Action.complainAs command text
  return 1

end FolderBackup.Shell.Waiting
