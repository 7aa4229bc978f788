import FolderBackup.Shell.Command
import FolderBackup.Shell.Quoting
import FolderBackup.World

/-! A script being run.

A session is the state of a script that is being run: the world, the variables, the functions, the
descriptors and what was written so far. A run is an action on it, which may end before the script
does. -/
namespace FolderBackup.Shell

/-! ### Variables -/

/-- What a variable holds. -/
inductive Value where
  /-- Nothing yet. -/
  | unset
  | text (text : String)
  /-- Texts under numbers, in the order of those. -/
  | list (entries : List (Nat × String))
  /-- Texts under names. -/
  | table (entries : List (String × String))
  deriving DecidableEq, Repr

/-- How the letters of a value are written. -/
inductive LetterCase where
  | asGiven
  | lower
  | upper
  | capital
  deriving DecidableEq, Repr

structure Variable where
  value : Value
  /-- Whether what it is given is an expression. -/
  isInteger : Bool
  isReadonly : Bool
  /-- Whether scripts that are run as processes see it. -/
  isExported : Bool
  /-- An attribute that means nothing for variables. -/
  isTraced : Bool
  letters : LetterCase
  /-- Whether it names another variable. -/
  refers : Bool
  /-- Whether it was given a value, which may be empty. -/
  isGiven : Bool
  /-- Whether its value tells about the session, and is made up when it is looked at. -/
  isMade : Bool
  deriving DecidableEq, Repr

namespace Variable

/-- A variable without anything special. -/
def plain (value : Value) : Variable :=
  { value, isInteger := false, isReadonly := false, isExported := false, isTraced := false
    letters := .asGiven, refers := false, isGiven := value ≠ .unset, isMade := false }

def ofText (text : String) : Variable := plain (.text text)

/-- The text that a variable holds by itself. -/
def text? (held : Variable) : Option String :=
  match held.value with
  | .unset => none
  | .text text => some text
  | .list entries => entries.lookup 0
  | .table entries => entries.lookup "0"

end Variable

/-- Variables that come and go together. -/
structure Frame where
  /-- Whether they are those of a function. -/
  ofFunction : Bool
  bindings : List (String × Variable)

/-! ### Descriptors -/

/-- What a handle leads to. -/
inductive Handle.Target where
  | nothing
  | output
  | complaint
  /-- A text that is not in a file. -/
  | text (content : String)
  | file (path : List String)
  | folder
  /-- Nothing can be written there. -/
  | full

/-- Something open, and the place that reading or writing goes on at. -/
structure Handle where
  target : Handle.Target
  place : Nat
  appends : Bool
  reads : Bool
  writes : Bool

/-! ### Ends of a run -/

/-- How a run ends before its script does. -/
inductive Finish where
  | exit (code : Nat)
  /-- Something went wrong in it. -/
  | failed (code : Nat)
  | signal (number : Nat)
  /-- Only the function that is being run ends. -/
  | returned (code : Nat)
  /-- A loop ends, and so many of the loops around it. -/
  | broken (outer : Nat)
  /-- A loop goes on with its next round, after so many loops inside it have ended. -/
  | continued (outer : Nat)
  /-- The rest of the line is given up. -/
  | discarded
  /-- An expression over numbers has no value. -/
  | noValue
  /-- Only the command that comes next is left out. -/
  | passedOver
  deriving DecidableEq, Repr

/-! ### Sessions -/

structure Function where
  body : Command
  /-- The line that it is defined on, and the one that its body starts on. -/
  line : Nat
  start : Nat
  /-- The file that it is defined in. -/
  file : String
  isExported : Bool
  isReadonly : Bool
  /-- Whether what is asked for before commands and at returns is asked for in it too. -/
  isTraced : Bool

/-- A function that is being run, or a file that is run in the place of a command. -/
structure Call where
  name : String
  /-- The line it was called on. -/
  line : Nat
  /-- The file it is in. -/
  file : String
  arguments : List String
  isFunction : Bool

/-- A script being run. -/
structure Session where
  world : World
  /-- The variables, those of the innermost function first. -/
  frames : List Frame
  functions : List (String × Function)
  /-- The arguments of the script, or of the function that is being run. -/
  arguments : List String
  /-- The options that are on. -/
  options : List String
  /-- The descriptors, each with the number of its handle. -/
  descriptors : List (Nat × Nat)
  handles : List (Nat × Handle)
  nextHandle : Nat
  /-- What was written so far, latest first. -/
  output : List String
  /-- What was complained about so far, latest first. -/
  complaint : List String
  status : Nat
  /-- The statuses of the members of the last pipeline. -/
  statuses : List Nat
  /-- The status of the last text that was put in for a command, if there was one. -/
  substituted : Option Nat
  /-- Whether it is being asked if commands fail. -/
  asking : Bool
  /-- The functions that are being run, the innermost first. -/
  calls : List Call
  /-- Whether the process was started for the simple command that comes next. -/
  isForked : Bool
  /-- How many lists of several commands are being run inside each other. -/
  lists : Nat
  /-- How many loops are being run inside each other. -/
  loops : Nat
  /-- How many processes are inside each other. -/
  depth : Nat
  /-- What is run at signals and at other events, by their names. -/
  traps : List (String × String)
  /-- What is run at events outside of a process, which is listed in it as well. -/
  outerTraps : List (String × String)
  /-- Whether what is run is asked for at an event. -/
  answering : Bool
  /-- The signals that wait for the end of a command. -/
  pending : List Nat
  /-- The name of the script. -/
  name : String
  /-- The arguments that the script was started with. -/
  given : List String
  /-- The file that the script is in, if it is in one. -/
  file : Option String
  /-- The name of the command being run, as far as its complaints show it. -/
  commandName : String
  line : Nat
  /-- How often the number of a process was handed out. -/
  processes : Nat
  /-- The number of the last process in the background, if there was one. -/
  lastProcess : Option Nat
  /-- The processes that were in the background, each with its status, latest first. -/
  jobs : List (Nat × Nat)
  aliases : List (String × String)
  /-- How many texts are being run inside each other. -/
  texts : Nat
  random : Nat
  /-- The place in the argument that options are taken from. -/
  optionPlace : Nat
  /-- The folders that were put aside. -/
  folders : List String
  mask : Nat
  /-- The folder that is shown as the current one. -/
  here : String

/-- An action on a session, which may end the run. -/
abbrev Action := ExceptT Finish (StateM Session)

namespace Session

/-! ### Options -/

def isOn (session : Session) (option : String) : Bool := session.options.contains option

/-- With an option turned on or off. -/
def turn (option : String) (on : Bool) (session : Session) : Session :=
  { session with options :=
      if on then session.options.insert option else session.options.filter (· ≠ option) }

/-! ### Variables -/

/-- A variable by its name, in the innermost frame that has one. -/
def held? (session : Session) (name : String) : Option Variable :=
  session.frames.findSome? fun frame => frame.bindings.lookup name

/-- Some variables with one of them changed. -/
def replaced (name : String) (new : Variable) (bindings : List (String × Variable)) :
    List (String × Variable) :=
  if bindings.any (·.1 == name) then
    bindings.map fun entry => if entry.1 = name then (name, new) else entry
  else bindings ++ [(name, new)]

/-- The frames with a variable put where there is one of its name, or else the outermost one. -/
def putInto (name : String) (new : Variable) : List Frame → List Frame
  | [] => []
  | [frame] => [{ frame with bindings := replaced name new frame.bindings }]
  | frame :: outer =>
    if frame.bindings.any (·.1 == name) then
      { frame with bindings := replaced name new frame.bindings } :: outer
    else frame :: putInto name new outer

def putVariable (name : String) (new : Variable) (session : Session) : Session :=
  { session with frames := putInto name new session.frames }

/-- The frames with a variable put where it lasts: also outside of those that only hold while a command
is run. -/
def putThrough (name : String) (new : Variable) : List Frame → List Frame
  | [] => []
  | [frame] => [{ frame with bindings := replaced name new frame.bindings }]
  | frame :: outer =>
    if frame.bindings.any (·.1 == name) then
      let changed := { frame with bindings := replaced name new frame.bindings }
      if frame.ofFunction then changed :: outer else changed :: putThrough name new outer
    else frame :: putThrough name new outer

/-- With a variable put where it lasts. -/
def putLasting (name : String) (new : Variable) (session : Session) : Session :=
  { session with frames := putThrough name new session.frames }

/-- The frames with a variable put into the one of the innermost function. -/
def putIntoFunction (name : String) (new : Variable) : List Frame → List Frame
  | [] => []
  | [frame] => [{ frame with bindings := replaced name new frame.bindings }]
  | frame :: outer =>
    if frame.ofFunction then
      { frame with bindings := replaced name new frame.bindings } :: outer
    else frame :: putIntoFunction name new outer

/-- With a variable put into the outermost frame. -/
def putGlobal (name : String) (new : Variable) (session : Session) : Session :=
  { session with frames := session.frames.dropLast ++ (session.frames.getLast?.map fun frame =>
      { frame with bindings := replaced name new frame.bindings }).toList }

/-- The variable of the outermost frame. -/
def global? (session : Session) (name : String) : Option Variable :=
  (session.frames.getLast?).bind fun frame => frame.bindings.lookup name

/-- With a variable put into the frame of the innermost function. -/
def putLocal (name : String) (new : Variable) (session : Session) : Session :=
  { session with frames := putIntoFunction name new session.frames }

/-- The variable of the innermost function, if it has one of this name. -/
def local? (session : Session) (name : String) : Option Variable :=
  (session.frames.find? (·.ofFunction)).bind fun frame => frame.bindings.lookup name

/-- The frames without a variable. It stays in the frame of the innermost function, or of any function if
those are kept, but holds nothing there. -/
def removeFrom (name : String) (keeps : Bool) : Bool → List Frame → List Frame
  | _, [] => []
  | isInner, frame :: outer =>
    if frame.bindings.any (·.1 == name) then
      if frame.ofFunction && (isInner || keeps) then
        { frame with bindings := replaced name (.plain .unset) frame.bindings } :: outer
      else { frame with bindings := frame.bindings.filter (·.1 ≠ name) } :: outer
    else frame :: removeFrom name keeps (isInner && !frame.ofFunction) outer

def removeVariable (name : String) (session : Session) : Session :=
  { session with frames := removeFrom name (session.isOn "localvar_unset") true session.frames }

/-- The frames from the one on that has a variable. -/
def framesWith (session : Session) (name : String) : List Frame :=
  session.frames.dropWhile fun frame => !frame.bindings.any (·.1 == name)

/-- A variable that is only there while a command is run. -/
def passing? (session : Session) (name : String) : Option Variable :=
  match session.framesWith name with
  | frame :: _ :: _ => if frame.ofFunction then none else frame.bindings.lookup name
  | _ => none

/-- Whether a variable is the one outside of all functions. -/
def isOutermost (session : Session) (name : String) : Bool :=
  (session.framesWith name).length = 1

/-- With a text put into a variable of which nothing else changes. -/
def set (name text : String) (session : Session) : Session :=
  let old := (session.held? name).getD (.plain .unset)
  session.putVariable name { old with value := .text text, isGiven := true, isMade := false }

/-! ### Descriptors -/

def handleOf? (session : Session) (descriptor : Nat) : Option (Nat × Handle) := do
  let id ← session.descriptors.lookup descriptor
  let handle ← session.handles.lookup id
  return (id, handle)

def putHandle (id : Nat) (handle : Handle) (session : Session) : Session :=
  { session with handles := (id, handle) :: session.handles.filter (·.1 ≠ id) }

/-- With a handle opened; gives its number. -/
def openHandle (handle : Handle) (session : Session) : Nat × Session :=
  (session.nextHandle, { session with
    handles := (session.nextHandle, handle) :: session.handles
    nextHandle := session.nextHandle + 1 })

/-- With a descriptor that leads to a handle. -/
def point (descriptor id : Nat) (session : Session) : Session :=
  { session with
    descriptors := (descriptor, id) :: session.descriptors.filter (·.1 ≠ descriptor) }

def close (descriptor : Nat) (session : Session) : Session :=
  { session with descriptors := session.descriptors.filter (·.1 ≠ descriptor) }

/-- What is in a file. -/
def fileContent (session : Session) (path : List String) : List Char :=
  match session.world.tree.get? path with
  | some (.file content) => content.map fun byte => Char.ofNat byte.toNat
  | _ => []

/-- With something in a file. -/
def putFile (path : List String) (content : List Char) (session : Session) : Session :=
  { session with world := { session.world with
      tree := (path, .file (Octets.bytes content)) ::
        session.world.tree.filter (·.1 ≠ path) } }

/-- What can be read from a handle on. -/
def ahead (session : Session) (handle : Handle) : List Char :=
  match handle.target with
  | .text content => content.toList.drop handle.place
  | .file path => (session.fileContent path).drop handle.place
  | _ => []

/-- With a text written to a handle. -/
def writeTo (id : Nat) (handle : Handle) (text : String) (session : Session) : Session :=
  match handle.target with
  | .nothing => session
  | .folder => session
  | .full => session
  | .output => { session with output := text :: session.output }
  | .complaint => { session with complaint := text :: session.complaint }
  | .text content => session.putHandle id { handle with target := .text (content ++ text) }
  | .file path =>
    let old := session.fileContent path
    let place := if handle.appends then old.length else handle.place
    let gap := List.replicate (place - old.length) '\x00'
    let new := old.take place ++ gap ++ text.toList ++ old.drop (place + text.length)
    (session.putFile path new).putHandle id { handle with place := place + text.length }

/-- With a text written to a descriptor; none if that cannot be written to. -/
def put? (descriptor : Nat) (text : String) (session : Session) : Option Session :=
  match session.handleOf? descriptor with
  | some (id, handle) => if handle.writes then some (session.writeTo id handle text) else none
  | none => none

/-- With a text written to the complaints. -/
def complainText (text : String) (session : Session) : Session :=
  (session.put? 2 text).getD session

/-- The files that what is being run is in, the innermost first. -/
def files (session : Session) : List String :=
  session.calls.map (·.file) ++ session.file.toList

/-- The name that complaints start with. -/
def place (session : Session) : String := session.files.head?.getD session.name

/-- Whether a function is being run. -/
def inFunction (session : Session) : Bool := session.calls.any (·.isFunction)

/-- With a complaint of the shell itself. -/
def complain (text : String) (session : Session) : Session :=
  session.complainText (session.place ++ ": line " ++ toString session.line ++ ": " ++ text ++ "\n")

end Session

/-! ### Actions -/

namespace Action

/-- Complains. -/
def complain (text : String) : Action Unit := modify (Session.complain text)

/-- Complains in the name of a command. -/
def complainAs (command text : String) : Action Unit := complain (command ++ ": " ++ text)

/-- The status of what was done last. -/
def setStatus (status : Nat) : Action Unit := modify fun session => { session with status }

def finish {α : Type} (how : Finish) : Action α := throw how

/-- Complains, and gives up the rest of the line. -/
def discard {α : Type} (text : String) : Action α := do
  complain text
  setStatus 1
  finish .discarded

/-- Complains, and ends the run. -/
def quit {α : Type} (text : String) (code : Nat) : Action α := do
  complain text
  setStatus code
  finish (.failed code)

/-- Writes a text in the name of a command; whether it could be written. -/
def write (command text : String) : Action Bool := do
  if text = "" then return true
  let session ← get
  let isFull := (session.handleOf? 1).any fun (_, handle) => handle.target matches .full
  match session.put? 1 text, isFull with
  | some session, false =>
    set session
    return true
  | _, true =>
    complainAs command "write error: No space left on device"
    return false
  | none, _ =>
    complainAs command "write error: Bad file descriptor"
    return false

/-- An action on a copy of the session, of which only what leads out of it is kept; gives the
status it ends with. -/
def apart (action : Action Unit) : Action Nat := do
  let outer ← get
  let (result, inner) := action.run.run { outer with depth := outer.depth + 1 }
  let code := match result with
    | .ok () => inner.status
    | .error (.exit code) => code
    | .error (.failed code) => code
    | .error .discarded => if inner.status = 0 then 1 else inner.status
    | .error _ => inner.status
  set { outer with
    world := { inner.world with here := outer.world.here }
    handles := inner.handles, nextHandle := inner.nextHandle
    output := inner.output, complaint := inner.complaint
    processes := inner.processes + 1 }
  match result with
  | .error (.signal number) => throw (.signal number)
  | _ => return code

/-- An action, and how it ended; what is changed is kept. -/
def attempt {α : Type} (action : Action α) : Action (Except Finish α) :=
  ExceptT.mk do return .ok (← action.run)

/-- An action, and after it another one, however it ended. -/
def ensuring {α : Type} (after : Action Unit) (action : Action α) : Action α := do
  let result ← attempt action
  after
  match result with
  | .ok value => return value
  | .error how => finish how

end Action

end FolderBackup.Shell
