import FolderBackup.Shell.Builtin
import FolderBackup.Shell.Programs
import FolderBackup.Shell.Tracing

/-! Simple commands.

A simple command is a name and arguments, with assignments before them that hold while it is run. The
name stands for a function, a command of the shell itself or a program. Assignments alone are made
for good. -/
namespace FolderBackup.Shell.Simple

open Declaring (Declared)

variable (run : Runner)

/-! ### Assignments -/

/-- Makes an assignment for good; the rest of the line is given up if it cannot be made. -/
def assign (assignment : Assignment) : Action Unit := do
  if !(← Declaring.assign (Texts.means run) (Tracing.tell run) assignment) then
    Action.setStatus 1
    throw .discarded

/-- Makes an assignment that holds while a command is run. -/
def assignMeanwhile (assignment : Assignment) : Action Unit := do
  let text ← Expansion.assignedText (Texts.means run) assignment.value
  Tracing.tell run (Declaring.shownTarget assignment ++ Listing.tracedItem text)
  let session ← get
  let name := session.resolved assignment.name
  if (session.meant? name).any (·.isReadonly) then
    Action.complain (name ++ ": readonly variable")
  else
    let old := if assignment.adds then session.get name else ""
    match session.frames with
    | frame :: outer =>
      let bindings := Session.replaced name (Session.exportedText (old ++ text)) frame.bindings
      set { session with frames := { frame with bindings } :: outer }
    | [] => return

/-- The frames that were there before some were put in front. -/
def dropFrames (count : Nat) (session : Session) : Session :=
  { session with frames := session.frames.drop (session.frames.length - count) }

/-- An action with assignments that hold while it is run. -/
def withAssignments (assignments : List Assignment) (action : Action Unit) : Action Unit := do
  if assignments.isEmpty then action
  else
    let count := (← get).frames.length
    modify fun session => { session with
      frames := { ofFunction := false, bindings := [] } :: session.frames }
    Action.ensuring (modify (dropFrames count)) do
      for assignment in assignments do
        assignMeanwhile run assignment
      action

/-! ### Functions and files -/

/-- What is done at the end of a function or of a file: what is asked for is run, which still sees
the status of the last command. -/
def atReturn (line : Nat) (result : Except Finish Unit) : Action Unit := do
  match result with
  | .ok () =>
    modify fun session => { session with line }
    Texts.atEvent run "RETURN"
  | .error (.returned code) =>
    Texts.atEvent run "RETURN"
    Action.setStatus code
  | _ => pure ()

/-- With the frames of a function dropped, and the options turned back that it kept. -/
def endedCall (count : Nat) (session : Session) : Session :=
  let frames := session.frames.take (session.frames.length - count)
  dropFrames count (Attributes.withKeptOptions frames session)

/-- Calls a function. -/
def call (name : String) (function : Function) (arguments : List String) : Action Unit := do
  let outer ← get
  let isKept (event : String) : Bool :=
    Texts.isInherited outer event ||
      (function.isTraced && (event == "DEBUG" || event == "RETURN"))
  let hidden := outer.traps.filter fun (event, text) =>
    text ≠ "" && Signals.events.contains event && !isKept event
  set { outer with
    arguments, loops := 0
    calls := { name, line := outer.line, file := function.file, arguments, isFunction := true } ::
      outer.calls
    frames := { ofFunction := true, bindings := [] } :: outer.frames
    traps := outer.traps.filter fun entry => !(hidden.map Prod.fst).contains entry.1 }
  let result ← Action.attempt do
    modify fun session => { session with line := function.start }
    Tracing.ask run
    run function.body
  atReturn run function.start result
  modify fun after => endedCall outer.frames.length { after with
    arguments := outer.arguments, loops := outer.loops, calls := outer.calls, line := outer.line
    traps := after.traps ++ hidden.filter fun entry => (after.traps.lookup entry.1).isNone }
  match result with
  | .ok () => return
  | .error (.returned _) => return
  | .error how => throw how

/-- The path of a file that is named without a folder. -/
def sourcePath (session : Session) (name : String) : String :=
  if name.contains '/' then name
  else
    let inFolder (folder : String) : Option String :=
      let path := folder ++ "/" ++ name
      match session.world.find (Octets.toText path) with
      | some (.file _) => some path
      | _ => none
    ((Lookup.folders session).findSome? inFolder).getD name

/-- Runs the text of a file in the place of a command. -/
def sourceText (path : String) (arguments : List String) (text : List Char) : Action Nat := do
  let outer ← get
  set { outer with
    texts := outer.texts + 1
    calls := { name := "source", line := outer.line, file := path, arguments, isFunction := false } ::
      outer.calls
    arguments := if arguments.isEmpty then outer.arguments else arguments }
  let manner : Texts.Manner := { place := none, isScript := false }
  let result ← Action.attempt
    (Texts.runFrom run manner 1 (String.ofList (text.filter (· ≠ '\x00'))))
  atReturn run outer.line result
  modify fun after => Texts.remembering outer { after with
    calls := outer.calls, texts := outer.texts, line := outer.line
    arguments := if arguments.isEmpty then after.arguments else outer.arguments }
  match result with
  | .ok () => return (← get).status
  | .error (.returned code) => return code
  | .error how => throw how

/-- Runs a file in the place of a command. -/
def source (command : String) (arguments : List String) : Action Nat :=
  Usage.taking command "" "" arguments fun found => do
    match found.rest with
    | [] =>
      Action.complainAs command "filename argument required"
      Usage.tell command
      return 2
    | name :: arguments =>
      let session ← get
      let path := sourcePath session name
      if let some text ← Programs.described? path then
        return ← sourceText run path arguments text
      match session.world.reach (Octets.toText path) with
      | .error obstacle =>
        Action.complain (path ++ ": " ++ obstacle.message)
        return 1
      | .ok target =>
        match session.world.tree.get? target with
        | some .folder =>
          Action.complainAs command (path ++ ": is a directory")
          return 1
        | some .program =>
          Action.complainAs command (path ++ ": cannot execute binary file")
          return 126
        | _ =>
          let content := session.fileContent target
          if Programs.isBinary content then
            Action.complainAs command (path ++ ": cannot execute binary file")
            return 126
          else sourceText run path arguments content

/-! ### Commands that run others -/

/-- `eval` runs its arguments as a text. -/
def evaluate (arguments : List String) : Action Nat :=
  Usage.taking "eval" "" "" arguments fun found => do
    Texts.runInside run "eval" (String.intercalate " " found.rest)
    return (← get).status

/-- `exec` lets a program take the place of the script. -/
def replace (arguments : List String) : Action Nat :=
  Usage.taking "exec" "cl" "a" arguments fun found => do
    match found.rest with
    | [] => return 0
    | name :: arguments =>
      let leave (status : Nat) : Action Nat := do
        if (← get).isOn "execfail" then return status else throw (.exit status)
      let path := Programs.fullPath (← get) name
      match Programs.find (← get) path with
      | .failing status complaint =>
        if !name.contains '/' then Action.complainAs "exec" (name ++ ": not found")
        else
          Action.complain complaint
          if status = 126 then
            Action.complainAs "exec" (path ++ ": cannot execute: " ++
              String.ofList (complaint.toList.drop (path.length + 2)))
        leave status
      | _ =>
        modify fun session => { session with traps := session.traps.filter (·.1 ≠ "EXIT") }
        if found.has 'c' then modify Session.withoutExports
        let called := (if found.has 'l' then "-" else "") ++ (found.value? 'a').getD name
        throw (.exit (← Programs.startAs run name called arguments))

/-- What a name stands for and what it is given, where commands are asked for by other commands; whether
functions count. -/
def dispatch : Nat → Bool → String → List String → Action Nat
  | 0, _, _, _ => return 1
  | fuel + 1, functions, name, arguments => do
    let session ← get
    let function? := if functions then session.functions.lookup name else none
    let meanwhile (result : Action Nat) : Action Nat := do
      modify fun session => { session with commandName := name }
      let status ← result
      modify fun session => { session with commandName := "" }
      return status
    match function? with
    | some function =>
      call run name function arguments
      return (← get).status
    | none =>
      match name with
      | "eval" => evaluate run arguments
      | "exec" => replace run arguments
      | "." => source run "." arguments
      | "source" => source run "source" arguments
      | "mapfile" => Input.readLines "mapfile" (Texts.runInside run "mapfile") arguments
      | "readarray" => Input.readLines "readarray" (Texts.runInside run "readarray") arguments
      | "builtin" =>
        match Leaving.operands arguments with
        | [] => return 0
        | name :: arguments =>
          if Lookup.builtins.contains name then dispatch fuel false name arguments
          else
            Action.complainAs "builtin" (name ++ ": not a shell builtin")
            return 1
      | "command" =>
        Usage.taking "command" "pvV" "" arguments fun found => do
          if found.has 'v' || found.has 'V' then Lookup.describe (found.has 'V') found.rest
          else match found.rest with
            | [] => return 0
            | name :: arguments => dispatch fuel false name arguments
      | name =>
        match Builtin.find? (Texts.means run) name with
        | some builtin => meanwhile (builtin arguments)
        | none =>
          match session.functions.lookup "command_not_found_handle", Programs.find session name with
          | some handler, .failing 127 _ =>
            if name.contains '/' then Programs.start run name arguments
            else Texts.apart run (call run "command_not_found_handle" handler (name :: arguments))
          | _, _ => Programs.start run name arguments

/-! ### Words -/

/-- The assignments at the start of some words, and the other words. -/
def cut : List Raw → List Assignment × List Raw
  | [] => ([], [])
  | raw :: rest =>
    match Assignment.ofRaw? raw with
    | some assignment =>
      let (assignments, words) := cut rest
      (assignment :: assignments, words)
    | none => ([], raw :: rest)

/-- The texts of some words. -/
def textsOf (words : List Raw) : Action (List String) := do
  return (← words.mapM (Declaring.textsOf (Texts.means run))).flatten

/-- What declares variables, by its name. -/
def declares? (session : Session) (name : String) : Option (List Declared → Action Nat) :=
  let means := Texts.means run
  if (session.functions.lookup name).isSome then none
  else match name with
    | "declare" => some (Attributes.declare means "declare")
    | "typeset" => some (Attributes.declare means "typeset")
    | "local" => some (Attributes.declare means "local")
    | "export" => some (Attributes.mark means "export" 'x')
    | "readonly" => some (Attributes.mark means "readonly" 'r')
    | _ => none

/-- Runs a command whose name and arguments are known. -/
def runWords (assignments : List Assignment) (redirections : List Redirection)
    (texts : List String) (action : Action Nat) : Action Unit := do
  let means := Texts.means run
  let result ← Action.attempt (withAssignments run assignments do
    Tracing.tell run (Tracing.shownWords texts)
    let act : Action Unit := do Action.setStatus (← action)
    if texts = ["exec"] then
      if ← Redirecting.makeAll means redirections then act else Action.setStatus 1
    else
      let _ ← Redirecting.around means redirections act)
  modify (Session.set "_" (texts.getLast?.getD ""))
  match result with
  | .ok () => return
  | .error how => throw how

/-- Shows what a variable is given that is declared. -/
def tellGiven (declared : Declared) : Action Unit := do
  match declared.given with
  | some (.text text) =>
    Tracing.tell run (declared.name ++ (if declared.adds then "+=" else "=") ++
      Listing.tracedItem text)
  | _ => return

/-- Runs a simple command. -/
def simple (words : List Raw) (redirections : List Redirection) : Action Unit := do
  let isForked := (← get).isForked
  modify fun session => { session with substituted := none, isForked := false }
  let means := Texts.means run
  let (assignments, rest) := cut words
  let bare : Action Unit := do
    let status := do return (← get).substituted.getD 0
    assignments.forM (assign run)
    let _ ← Redirecting.around means redirections do
      Action.setStatus (← status)
    modify (Session.set "_" "")
  match rest with
  | [] => bare
  | first :: others =>
    match declares? run (← get) (String.ofList first) with
    | some declare =>
      let name := String.ofList first
      let declared ← others.zipIdx.mapM fun (raw, index) =>
        Declaring.ofRaw means (Tracing.tell run) name (others.take index) raw
      let declared := declared.flatten
      runWords run assignments redirections (name :: declared.map (·.shown)) do
        modify fun session => { session with commandName := name }
        if name = "export" ∨ name = "readonly" then declared.forM (tellGiven run)
        declare declared
    | none =>
      match ← textsOf run rest with
      | [] => bare
      | name :: arguments =>
        runWords run assignments redirections (name :: arguments) <|
          if name.startsWith "%" && !isForked then Waiting.useless "fg" "no job control"
          else dispatch run (arguments.length + 1) true name arguments

end FolderBackup.Shell.Simple
