import FolderBackup.Shell.Redirecting
import FolderBackup.Shell.Saying
import FolderBackup.Shell.Start
import FolderBackup.Shell.Switches
import FolderBackup.Shell.Texts

/-! Starting programs.

A program is found by its path, or by its name in one of the folders for programs. A tool takes the
place of a real one; the shell itself can be started as well, to run another script. -/
namespace FolderBackup.Shell.Programs

/-! ### Finding -/

/-- What is found for the name of a program. -/
inductive Found where
  | tool (name : String)
  /-- A program that is always there. -/
  | standard (name : String)
  /-- None that can be started. -/
  | failing (status : Nat) (complaint : String)

/-- What a path leads to. -/
def atPath (session : Session) (path : String) : Found :=
  let name := (Redirecting.lastName path).1
  if path.startsWith (Lookup.toolFolder ++ "/") && session.world.hasTool (Octets.toText name) then
    .tool name
  else match session.world.reach (Octets.toText path) with
    | .error obstacle =>
      .failing (if obstacle = .missing then 127 else 126) (path ++ ": " ++ obstacle.message)
    | .ok target =>
      match session.world.tree.get? target with
      | some .program => .standard name
      | some .folder => .failing 126 (path ++ ": Is a directory")
      | _ => .failing 126 (path ++ ": Permission denied")

/-- The first file of a name in the folders for programs that cannot be started. -/
def blocked? (session : Session) (name : String) : Option String :=
  ((Lookup.folders session).map fun folder =>
      (if folder = "" then "." else folder) ++ "/" ++ name).find? fun path =>
    match session.world.find (Octets.toText path) with
    | some (.file _) => true
    | _ => false

/-- The path of a program from the root, if it is named by a path. -/
def fullPath (session : Session) (name : String) : String :=
  if name.startsWith "/" || !name.contains '/' then name
  else session.here ++ "/" ++
    if name.startsWith "./" then String.ofList (name.toList.drop 2) else name

/-- What a name stands for. -/
def find (session : Session) (name : String) : Found :=
  if name.contains '/' then atPath session name
  else match Lookup.program? session name with
    | some path => atPath session path
    | none =>
      if (session.value? "PATH").all fun value => value matches .text "" then
        .failing 127 (name ++ ": No such file or directory")
      else match blocked? session name with
        | some path => .failing 126 (path ++ ": Permission denied")
        | none => .failing 127 (Quoting.shown name ++ ": command not found")

/-! ### Scripts -/

variable (run : Runner)

/-- Complains in the name of a script that is about to start. -/
def complainOf (name text : String) : Action Unit :=
  modify (Session.complainText (name ++ ": " ++ text ++ "\n"))

/-- Runs another script; the status it ends with. -/
def script (name : String) (file : Option String) (arguments options : List String)
    (manner : Texts.Manner) (text : List Char) : Action Nat := do
  let process : Action Nat := Action.apart do
    modify (Session.started name file arguments options)
    if manner.place = some "-c" then
      modify (Session.set "BASH_EXECUTION_STRING" (String.ofList text))
    Texts.asProcess run
      (Texts.runFrom run manner 1 (String.ofList (text.filter (· ≠ '\x00'))))
  match ← Action.attempt process with
  | .ok status => return status
  | .error (.signal signal) =>
    if signal = 15 then modify (Session.complainText "Terminated\n")
    return 128 + signal
  | .error how => throw how

/-- Whether the start of a file shows that it is no text. -/
def isBinary (content : List Char) : Bool :=
  let start := content.take 80
  let looked := if start.take 2 = ['#', '!'] then start else start.takeWhile (· ≠ '\n')
  start.take 4 = ['\x7f', 'E', 'L', 'F'] || looked.contains '\x00'

/-- Everything that can be read at a path that stands for a descriptor, if it does. -/
def described? (path : String) : Action (Option (List Char)) := do
  let session ← get
  match (Redirecting.descriptorAt? path).bind session.handleOf? with
  | some (id, handle) =>
    let text := session.ahead handle
    set (session.putHandle id { handle with place := handle.place + text.length })
    return some text
  | none => return none

/-- Runs a file as a script. -/
def scriptFile (shell path : String) (arguments options : List String) : Action Nat := do
  if let some text ← described? path then
    return ← script run path (some path) arguments options .script text
  let session ← get
  match session.world.reach (Octets.toText path) with
  | .error obstacle =>
    complainOf shell (path ++ ": " ++ obstacle.message)
    return if obstacle = .missing then 127 else 126
  | .ok target =>
    match session.world.tree.get? target with
    | some .folder =>
      complainOf path (path ++ ": Is a directory")
      return 126
    | some (.file _) =>
      let content := session.fileContent target
      if isBinary content then
        complainOf path (path ++ ": cannot execute binary file")
        return 126
      else script run path (some path) arguments options .script content
    | _ =>
      complainOf path (path ++ ": cannot execute binary file")
      return 126

/-- How the shell is started. -/
structure Invocation where
  /-- The options that are on. -/
  options : List String
  /-- Whether the first argument is the script. -/
  hasText : Bool
  /-- Whether the script is the input. -/
  readsInput : Bool
  rest : List String

/-- The options that the shell is started with; what is wrong with them otherwise. -/
def invocation? : Nat → List String → Except String Invocation
  | 0, rest => .ok { options := [], hasText := false, readsInput := false, rest }
  | _, [] => .ok { options := [], hasText := false, readsInput := false, rest := [] }
  | fuel + 1, argument :: rest =>
    let plain (rest : List String) : Except String Invocation :=
      .ok { options := [], hasText := false, readsInput := false, rest }
    match argument.toList with
    | ['-', '-'] => plain rest
    | ['-'] => plain rest
    | '-' :: '-' :: _ =>
      if ["--norc", "--noprofile", "--posix", "--noediting", "--restricted", "--verbose",
          "--login"].contains argument then do
        let found ← invocation? fuel rest
        return { found with options :=
          (if argument = "--login" then ["login_shell"] else []) ++ found.options }
      else .error (argument ++ ": invalid option")
    | '-' :: letters => do
      let known (c : Char) : Bool := "cisloO".contains c || (Switches.ofLetter? c).isSome
      match letters.find? (!known ·) with
      | some c => throw ("-" ++ c.toString ++ ": invalid option")
      | none =>
        let takes := letters.contains 'o' || letters.contains 'O'
        let found ← invocation? fuel (if takes then rest.tail else rest)
        return { found with
          options := (letters.filterMap fun c =>
            (Switches.ofLetter? c).or ((Session.originLetters ++ [('l', "login_shell")]).lookup c)) ++
            (if takes then rest.take 1 else []) ++ found.options
          hasText := found.hasText || letters.contains 'c'
          readsInput := found.readsInput || letters.contains 's' }
    | _ => plain (argument :: rest)

/-- Starts the shell. A hyphen before its name says that somebody logs in. -/
def shell (name : String) (arguments : List String) : Action Nat := do
  let signs := if name.startsWith "-" then ["login_shell"] else []
  match invocation? (arguments.length + 1) arguments with
  | .error text =>
    complainOf name text
    return 2
  | .ok found =>
    let found := { found with options := signs ++ found.options }
    match found.hasText, found.readsInput, found.rest with
    | true, _, [] =>
      complainOf name "-c: option requires an argument"
      return 2
    | true, _, text :: rest =>
      script run (rest.head?.getD name) none rest.tail found.options (.part "-c") text.toList
    | false, false, path :: rest => scriptFile run name path rest found.options
    | false, _, rest =>
      match (← get).handleOf? 0 with
      | some (id, handle) =>
        let session ← get
        let text := session.ahead handle
        set (session.putHandle id { handle with place := handle.place + text.length })
        script run name none rest ("input" :: found.options) .script text
      | none => script run name none rest ("input" :: found.options) .script []

/-! ### Programs -/

/-- Writes what is in some files, or the input. -/
def cat (paths : List String) : Action Nat := do
  let mut status := 0
  for path in if paths.isEmpty then ["-"] else paths do
    let session ← get
    if path = "-" then
      match session.handleOf? 0 with
      | some (id, handle) =>
        let text := session.ahead handle
        set (session.putHandle id { handle with place := handle.place + text.length })
        let _ ← Action.write "cat" (String.ofList text)
      | none => status := 1
    else match Redirecting.opened path .input session with
      | .error message =>
        modify (Session.complainText ("cat: " ++ path ++ ": " ++ message ++ "\n"))
        status := 1
      | .ok (id, session) =>
        match session.handles.lookup id with
        | some { target := .folder, .. } =>
          modify (Session.complainText ("cat: " ++ path ++ ": Is a directory\n"))
          status := 1
        | some handle =>
          let _ ← Action.write "cat" (String.ofList (session.ahead handle))
        | none => status := 1
  return status

/-- Starts a program that is always there, under another name. -/
def standard (name called : String) (arguments : List String) : Action Nat := do
  match name with
  | "false" => return 1
  | "echo" => return if ← Action.write "echo" (Saying.echoed false arguments) then 0 else 1
  | "cat" => cat arguments
  | "pwd" =>
    let _ ← Action.write "pwd" ((← get).here ++ "\n")
    return 0
  | "sh" => shell run called arguments
  | "bash" => shell run called arguments
  | "dash" => shell run called arguments
  | _ => return 0

/-- Starts a tool under another name. -/
def tool (name called : String) (arguments : List String) : Action Nat := do
  if name = "bash" then shell run called arguments
  else
    let session ← get
    let world := session.world.withDescriptors (session.descriptors.map Prod.fst).eraseDups
    let report := Tool.start world (Octets.toText name) (arguments.map Octets.toText)
    modify (Session.complainText (Octets.ofText report.complaint))
    return report.status

/-- Starts what is found for a name, under another name. -/
def startAs (name called : String) (arguments : List String) : Action Nat := do
  match find (← get) name with
  | .tool name => tool run name called arguments
  | .standard name => standard run name called arguments
  | .failing status complaint =>
    Action.complain complaint
    return status

/-- Starts what is found for a name. -/
def start (name : String) (arguments : List String) : Action Nat := startAs run name name arguments

end FolderBackup.Shell.Programs
