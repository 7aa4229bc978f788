import FolderBackup.Shell.Run
import FolderBackup.Text.Blank

/-! Checks made beforehand.

Before a command is built, the tools it starts are looked up, every path of the folder list is
looked for, and every key is tried. A folder list is read as the shell reads it: its words,
after braces and patterns are replaced, must all be there. -/
namespace FolderBackup.Preflight

/-- A tool must be there to be started. -/
def tool (world : World) (name : String) : Except Misconfiguration Unit :=
  if Shell.Tool.whichFinds world name then .ok () else .error (.toolMissing name)

/-- Whether the shell takes a character as it is, blanks and patterns aside. -/
def isInert (c : Char) : Bool :=
  !"\n\x00\\'\"$\x60;&|<>()\x7b\x7d#~!".contains c

/-- The words of a text, after patterns are replaced; none if there is anything else in it that means
something to the shell. -/
def plainTexts? (world : World) (text : String) : Option (List String) :=
  if text.toList.all isInert then
    let pieces := Shell.Piece.ofValue (Shell.Octets.ofText text)
    let fields := Shell.Fields.split [' ', '\t'] pieces
    some (fields.flatMap (Shell.Fields.globbed (Shell.Session.opened world)))
  else none

/-! ### Folders -/

/-- The script that prints every word of a folder list that nothing is found under. -/
def foldersScript (folders : String) : String :=
  "missing=0\nfor glob in " ++ folders ++
    "; do\n  if ! stat -t \"$\x7bglob\x7d\" >/dev/null 2>&1; then\n" ++
    "    echo \"$\x7bglob\x7d\" >&2\n    missing=1\n  fi\ndone\nexit $\x7bmissing\x7d\n"

/-- The lines of a complaint that are not empty. -/
def complaints (text : String) : List String :=
  (Text.linesOf text).filter (· ≠ "")

/-- What is complained about where some words are not found. -/
def echoed (words : List String) : String :=
  Shell.Octets.toText (String.join (words.map fun word => Shell.Saying.echoed false [word]))

/-- The complaints about a folder list; none if everything is found. A list that is more than
words is left to the script. -/
def foldersComplaint? (world : World) (folders : String) : Option (List String) :=
  match plainTexts? world folders with
  | some words =>
    let isMissing (word : String) : Bool :=
      !Shell.Tool.statFinds world (Shell.Octets.toText word)
    match words.filter isMissing with
    | [] => none
    | missing => some (complaints (echoed missing))
  | none =>
    let outcome := Shell.runScript world (foldersScript folders)
    if outcome.status.isSuccess then none else some (complaints outcome.complaint)

/-- Every word of a folder list must be found, and there must be one. -/
def folders (world : World) (folders : String) : Except Misconfiguration Unit :=
  if Text.allBlank folders.toList then .error .noFolders
  else match foldersComplaint? world folders with
    | none => .ok ()
    | some missing => .error (.foldersMissing missing)

/-! ### Keys -/

/-- The script that puts a command of the key tool to the test. -/
def keyScript (command : String) : String :=
  "echo foo bar | " ++ command

/-- What a command of the key tool complains about; none if it succeeds. A command that is more
than words is left to the script. -/
def keyComplaint? (world : World) (command : String) : Option String :=
  match plainTexts? world command with
  | some (name :: arguments) =>
    let report := Shell.Tool.start world name (arguments.map Shell.Octets.toText)
    if report.status = 0 then none else some report.complaint
  | _ =>
    let outcome := Shell.runScript world (keyScript command)
    if outcome.status.isSuccess then none else some outcome.complaint

/-- A command of the key tool must succeed. -/
def key (world : World) (key command : String) : Except Misconfiguration Unit := do
  tool world "gpg"
  match keyComplaint? world command with
  | none => .ok ()
  | some complaint => .error (.keyRefused key (String.ofList (Text.trim complaint.toList)))

end FolderBackup.Preflight
