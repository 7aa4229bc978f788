import FolderBackup.Shell.Expansion
import FolderBackup.Shell.Signals

/-! Running texts.

A text is read line by line, and each line is run before the next one is read. Besides the script
itself, texts are run that stand in words, that are put together by commands, and that are asked for
at events. -/
namespace FolderBackup.Shell

/-- How a command is run. -/
abbrev Runner := Command → Action Unit

namespace Texts

/-! ### Lines -/

/-- What is done with a text that goes wrong. -/
structure Manner where
  /-- What the text is called where it is no script. -/
  place : Option String
  /-- Whether a fault ends the whole run. -/
  isScript : Bool

namespace Manner

def script : Manner := { place := none, isScript := true }

/-- Whether the lines of the text are shown as they are read, if that is wanted. -/
def isShown (manner : Manner) : Bool := manner.isScript || manner.place == some "eval"

/-- A text that is only a part of a run. -/
def part (place : String) : Manner := { place := some place, isScript := false }

end Manner

/-- Complains about places in a text. -/
def complainAbout (manner : Manner) (complaints : List (Nat × String)) : Action Unit := do
  let session ← get
  let name := session.place ++
    ((manner.place.map (": " ++ ·)).getD "")
  for (line, text) in complaints do
    modify (Session.complainText
      (name ++ ": line " ++ toString line ++ ": " ++ text ++ "\n"))

variable (run : Runner)

/-- Runs a command of a text. What gives up the rest of a line ends a process inside another. -/
def runCommand (manner : Manner) (command : Command) : Action Unit := do
  match ← Action.attempt (run command) with
  | .ok () => return
  | .error .discarded =>
    let session ← get
    if manner.isScript then Action.setStatus (if session.status = 0 then 1 else session.status)
    else
      Action.setStatus 1
      if 0 < session.depth then throw (.failed 1)
  | .error how => throw how

/-- Whether a line holds no command. -/
def isBlankLine : Command → Bool
  | .sequence [] => true
  | _ => false

/-- Runs the lines of a text; the status is zero if there is no command in it. -/
def lines (manner : Manner) (any : Bool) : Nat → Reader → Action Unit
  | 0, _ => return
  | fuel + 1, reader => do
    let session ← get
    let (result, after) :=
      Reader.readLine { reader with
        extended := session.isOn "extglob", warnings := []
        aliases := if session.isOn "expand_aliases" then session.aliases else [] }
    if session.isOn "verbose" && manner.isShown then
      let read := reader.rest.take (reader.rest.length - after.rest.length)
      let ending := if read.isEmpty || read.getLast? = some '\n' then "" else "\n"
      modify (Session.complainText (String.ofList read ++ ending))
    complainAbout manner after.warnings.reverse
    match result with
    | .ok none => if !any then Action.setStatus 0
    | .ok (some command) =>
      if isBlankLine command || session.isOn "noexec" then lines manner any fuel after
      else
        runCommand run manner command
        lines manner true fuel after
    | .error fault =>
      complainAbout manner fault.complaints
      Action.setStatus (if fault.passing then 1 else 2)
      if fault.passing then lines manner true fuel after.nextLine
      else if manner.isScript then throw (.exit 2)

/-- Runs a text from a line on. -/
def runFrom (manner : Manner) (line : Nat) (text : String) : Action Unit := do
  let extended := (← get).isOn "extglob"
  lines run manner false (text.length + 2) (.ofText text.toList line extended)

/-- A session with the command remembered that was run last in another. -/
def remembering (before session : Session) : Session :=
  if session.answering then session
  else session.set "BASH_COMMAND" (before.get "BASH_COMMAND")

/-- Runs a text in the place of a command, its lines counted from one on. -/
def runInsideFrom (line : Nat) (place text : String) : Action Unit := do
  let session ← get
  set { session with texts := session.texts + 1 }
  let back : Action Unit := modify fun after =>
    remembering session { after with texts := session.texts, line := session.line }
  Action.ensuring back (runFrom run (.part place) line text)

/-- Runs a text in the place of a command. -/
def runInside (place text : String) : Action Unit := do
  runInsideFrom run (← get).line place text

/-! ### Events -/

/-- What a text that is run at an event is called. -/
def placeOf (event : String) : String :=
  if event = "EXIT" then "exit trap" else if event = "DEBUG" then "debug trap"
  else if event = "ERR" then "error trap" else if event = "RETURN" then "return trap" else "trap"

/-- The line that what is run at an event starts on: that of the command it is run for, or the first one
if it comes at a signal or at the end. -/
def lineOf (session : Session) (event : String) : Nat :=
  if Signals.events.contains event then session.line else 1

/-- Runs what is asked for at an event, not again while it is being run; the status it ends with. -/
def answer (event : String) : Action Nat := do
  let session ← get
  let text := (session.traps.lookup event).getD ""
  if text = "" then return 0
  let silenced := (event, "") :: session.traps.filter (·.1 ≠ event)
  set { session with traps := silenced, answering := true }
  let back : Action Unit := modify fun after => { after with
    status := session.status, statuses := session.statuses, answering := session.answering
    traps := if after.traps.lookup event = some "" then
        (event, text) :: after.traps.filter (·.1 ≠ event) else after.traps }
  Action.ensuring back do
    runInsideFrom run (lineOf session event) (placeOf event) text
    return (← get).status

/-- Runs what is asked for at an event. -/
def atEvent (event : String) : Action Unit := do
  let _ ← answer run event

/-- Runs what is asked for at the signals that came. -/
def atSignals : Action Unit := do
  let session ← get
  if session.pending.isEmpty then return
  set { session with pending := [] }
  for signal in session.pending do
    atEvent run ("SIG" ++ (Signals.names.lookup signal).getD "")

/-! ### Processes -/

/-- The code that a run ends with. -/
def codeOf (result : Except Finish Unit) (session : Session) : Nat :=
  match result with
  | .error (.exit code) => code
  | .error (.failed code) => code
  | .error .discarded => if session.status = 0 then 1 else session.status
  | _ => session.status

/-- An action that a process consists of. What is asked for at its end is run then, also if a signal
ends the whole script. -/
def asProcess (action : Action Unit) : Action Unit := do
  let result ← Action.attempt action
  let session ← get
  let text := (session.traps.lookup "EXIT").getD ""
  let isKilled := match result with
    | .error (.signal signal) => signal = 9 || 0 < session.depth
    | _ => false
  if text = "" || isKilled then
    match result with
    | .ok () => return
    | .error how => throw how
  let code := codeOf result session
  set { session with
    status := code, traps := session.traps.filter (·.1 ≠ "EXIT"), loops := 0, asking := false }
  match ← Action.attempt (runInsideFrom run 1 (placeOf "EXIT") text), result with
  | .error (.exit code), _ => throw (.exit code)
  | .error (.signal signal), _ => throw (.signal signal)
  | _, .error (.signal signal) => throw (.signal signal)
  | _, _ => throw (.exit code)

/-- Whether what is asked for at an event is also run in processes and functions. -/
def isInherited (session : Session) (event : String) : Bool :=
  if event = "ERR" then session.isOn "errtrace"
  else if event = "DEBUG" ∨ event = "RETURN" then session.isOn "functrace"
  else false

/-- The session of a process that starts inside another. -/
def entered (session : Session) : Session :=
  let (kept, left) := session.traps.partition fun (event, text) =>
    text = "" || isInherited session event
  { session with
    traps := kept, outerTraps := left ++ session.outerTraps, jobs := [], pending := [] }

/-- Runs an action as a process of its own; the status it ends with. -/
def apart (action : Action Unit) : Action Nat :=
  Action.apart do
    modify entered
    asProcess run action

/-! ### What texts write -/

/-- The redirection that a text consists of, if it is one of the input. -/
def onlyInput? (text : List Char) : Option Redirection :=
  match (Reader.readLine (.ofText text 1 false)).1 with
  | .ok (some (.sequence [.simple _ [] [redirection]])) =>
    if redirection.kind = .input && redirection.descriptor matches .usual then some redirection
    else none
  | _ => none

/-- A text without the line ends after it. -/
def withoutLineEnds (text : List Char) : List Char :=
  (text.reverse.dropWhile (· == '\n')).reverse

/-- What an action writes, and its status. -/
def written (action : Action Unit) : Action (List Char × Nat) := do
  let (id, session) := (← get).openHandle
    { target := .text "", place := 0, appends := true, reads := false, writes := true }
  set session
  let status ← apart run do
    modify (Session.point 1 id)
    action
  let session ← get
  set { session with handles := session.handles.filter (·.1 ≠ id) }
  match session.handles.lookup id with
  | some { target := .text content, .. } => return (content.toList, status)
  | _ => return ([], status)

/-- What a text writes when it takes the place of a command in a word. -/
def output (text : List Char) : Action String := do
  let line := (← get).line
  let (content, status) ← written run do
    modify fun session =>
      let session := if session.isOn "inherit_errexit" then session
        else session.turn "errexit" false
      { session with asking := false, texts := session.texts + 1 }
    match onlyInput? text with
    | some redirection => run (.redirected .copy [redirection])
    | none => runFrom run (.part "command substitution") line (String.ofList text)
  if content.contains '\x00' then
    Action.complain "warning: command substitution: ignored null byte in input"
  modify fun session => { session with status, substituted := some status }
  return String.ofList (withoutLineEnds (content.filter (· ≠ '\x00')))

/-- The descriptors that paths lead to. -/
def pathDescriptors : List Nat := (List.range 16).map (63 - ·)

/-- With all paths closed. -/
def withoutPaths (session : Session) : Session :=
  { session with
    descriptors := session.descriptors.filter fun entry => !pathDescriptors.contains entry.1 }

/-- An action, after which the paths are closed that were opened by it. -/
def closingPaths {α : Type} (action : Action α) : Action α := do
  let before := (← get).descriptors
  let isKept (entry : Nat × Nat) : Bool :=
    !pathDescriptors.contains entry.1 || (before.lookup entry.1).isSome
  Action.ensuring (modify fun session => { session with
    descriptors := session.descriptors.filter isKept }) action

/-- The path that leads to what a text writes. What a text reads is lost. -/
def path (reads : Bool) (text : List Char) : Action String := do
  let line := (← get).line
  let content ← if reads then do
      let (content, _) ← written run do
        runFrom run (.part "process substitution") line (String.ofList text)
      pure content
    else pure []
  let session ← get
  let number := (pathDescriptors.find? fun n => (session.descriptors.lookup n).isNone).getD 63
  let (id, session) := session.openHandle
    { target := if reads then .text (String.ofList content) else .nothing, place := 0
      appends := false, reads, writes := !reads }
  set (session.point number id)
  return "/dev/fd/" ++ toString number

/-- How commands in words are run. -/
def means : Expansion.Means := { output := output run, path := path run }

end Texts

end FolderBackup.Shell
