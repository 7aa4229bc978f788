import FolderBackup.Shell.Texts
import FolderBackup.Shell.Written

/-! Following a run.

A script can have its commands shown before they are run, and something run before each of them and
after those that fail. -/
namespace FolderBackup.Shell.Tracing

variable (run : Runner)

/-- What a shown command starts with: one sign more for every text inside another. -/
def sign : Action String := do
  let session ← get
  let text ← Expansion.promptText (Texts.means run) (session.get "PS4")
  match text.toList with
  | [] => return ""
  | c :: rest => return String.ofList (List.replicate (session.texts + 1) c ++ rest)

/-- Shows a command if that is wanted. -/
def tell (text : String) : Action Unit := do
  if (← get).isOn "xtrace" then
    modify (Session.turn "xtrace" false)
    let sign ← sign run
    modify fun session => (session.complainText (sign ++ text ++ "\n")).turn "xtrace" true

/-- The words of a command as they are shown. -/
def shownWords (texts : List String) : String :=
  String.intercalate " " (texts.map fun text => if text = "" then "''" else Listing.tracedItem text)

/-- Remembers the command that is run. -/
def remember (line : Nat) (shown : String) : Action Unit := do
  modify fun session => { session with line, commandName := "" }
  let session ← get
  if !session.answering then set (session.set "BASH_COMMAND" shown)

/-- Runs what is asked for before commands. Where that decides about them, the command is left out if
it fails, and the function is left if its status is two. -/
def ask : Action Unit := do
  let session ← get
  if !session.answering then
    let status ← Texts.answer run "DEBUG"
    if session.isOn "extdebug" && status ≠ 0 then
      throw (if status = 2 ∧ !session.calls.isEmpty then .returned 2 else .passedOver)

/-- What is done before a command: it is remembered, and what is asked for is run. -/
def before (line : Nat) (shown : String) : Action Unit := do
  remember line shown
  ask run

/-- What is done after a command that fails where it may not. -/
def after : Action Unit := do
  let session ← get
  if session.status ≠ 0 && !session.asking then
    Texts.atEvent run "ERR"
    if session.isOn "errexit" then throw (.exit session.status)

end FolderBackup.Shell.Tracing
