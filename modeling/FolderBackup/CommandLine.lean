import FolderBackup.Executor
import FolderBackup.Settings.Loading

/-! The command line.

The arguments name the file with the settings and may ask to stop after verifying, or to show
the commands instead of running them. Arguments that make no sense are refused before
anything is read. A run that fails is told as the last event and ends with status 1. -/
namespace FolderBackup.CommandLine

/-! ### Arguments -/

/-- What is to be done with the jobs. -/
inductive Mode where
  | execute
  | rehearse
  | verify
  deriving DecidableEq, Repr

structure Options where
  settingsPath : String
  mode : Mode
  deriving DecidableEq, Repr

/-- What the arguments ask for. -/
inductive Request where
  | help
  | version
  | perform (options : Options)
  /-- The arguments make no sense. -/
  | misuse
  deriving DecidableEq, Repr

/-- The arguments read so far. -/
structure Seen where
  settingsPath : Option String := none
  verifyOnly : Bool := false
  dryRun : Bool := false

namespace Seen

def withSettings (path : String) (seen : Seen) : Option Seen :=
  if path = "" ∨ seen.settingsPath.isSome then none
  else some { seen with settingsPath := some path }

/-- A flag may be given once. -/
def withVerifyOnly (seen : Seen) : Option Seen :=
  if seen.verifyOnly then none else some { seen with verifyOnly := true }

def withDryRun (seen : Seen) : Option Seen :=
  if seen.dryRun then none else some { seen with dryRun := true }

/-- What all arguments together ask for. -/
def request (seen : Seen) : Request :=
  match seen.settingsPath with
  | none => .misuse
  | some settingsPath =>
    if seen.verifyOnly && seen.dryRun then .misuse
    else .perform { settingsPath, mode :=
      if seen.verifyOnly then .verify else if seen.dryRun then .rehearse else .execute }

end Seen

/-- Whether an argument can be the value of the one before it: a lone hyphen can, anything
else that starts with one cannot. -/
def isValue (argument : String) : Bool :=
  argument = "-" || !argument.startsWith "-"

/-- What follows the short names of one argument. -/
inductive Cluster where
  /-- A request that ends the reading. -/
  | settled (request : Request)
  /-- The settings' path, joined on. -/
  | path (path : String)
  /-- The settings' path is the next argument. -/
  | open

/-- The short names after a hyphen: `h`, `V`, and `c` with the path joined on, after an equals
sign or not. -/
def cluster : List Char → Cluster
  | [] => .settled .misuse
  | c :: rest =>
    if c = 'h' then .settled .help
    else if c = 'V' then .settled .version
    else if c = 'c' then match rest with
      | [] => .open
      | '=' :: path => .path (String.ofList path)
      | path => .path (String.ofList path)
    else .settled .misuse

/-- The request made by the arguments, after those seen. -/
def read (seen : Seen) : List String → Request
  | [] => seen.request
  | ["--"] => seen.request
  | "--help" :: _ => .help
  | "--version" :: _ => .version
  | "--verify-only" :: rest => match seen.withVerifyOnly with
    | some seen => read seen rest
    | none => .misuse
  | "--dry-run" :: rest => match seen.withDryRun with
    | some seen => read seen rest
    | none => .misuse
  | "--config" :: path :: rest =>
    if isValue path then match seen.withSettings path with
      | some seen => read seen rest
      | none => .misuse
    else .misuse
  | argument :: rest =>
    if argument.startsWith "--config=" then
      match seen.withSettings (argument.drop "--config=".length).toString with
      | some seen => read seen rest
      | none => .misuse
    else if argument.startsWith "--" ∨ argument = "-" ∨ !argument.startsWith "-" then .misuse
    else match cluster (argument.toList.drop 1) with
      | .settled request => request
      | .path path => match seen.withSettings path with
        | some seen => read seen rest
        | none => .misuse
      | .open => match rest with
        | path :: rest =>
          if isValue path then match seen.withSettings path with
            | some seen => read seen rest
            | none => .misuse
          else .misuse
        | [] => .misuse

/-- The request made by the arguments. -/
def requestOf (arguments : List String) : Request :=
  read {} arguments

/-! ### Runs -/

variable {σ : Type}

/-- The jobs of an executor, dealt with in a mode. -/
def perform (around : Surroundings σ) (mode : Mode) (schedule : Executor.Schedule)
    (executor : Executor) : Activity σ Unit :=
  match mode with
  | .verify => executor.verifyAll around
  | .rehearse => report (Runner.rehearsal around)
  | .execute => report (Runner.shell around)
where
  report (runner : Runner σ) : Activity σ Unit := do
    let report ← (Executor.run around runner schedule).startingWith executor
    Activity.change (around.tell (.finished report.outcomes.length report.failed.length))
    Activity.settled report.toResult

/-- A whole run. Jobs that may run at the same time are taken up in the order of the
schedule made for them. -/
def run (around : Surroundings σ) (schedule : Executor → Executor.Schedule)
    (options : Options) : Activity σ Unit := do
  let world ← Activity.ask around.look
  let settings ← Activity.settled (Settings.load world options.settingsPath)
  let executor ← Executor.load around Registry.builtin settings
  perform around options.mode (schedule executor) executor

/-- The status of a whole run, of which a failure is told. -/
def status (around : Surroundings σ) (schedule : Executor → Executor.Schedule)
    (options : Options) : StateM σ Nat := do
  match ← (run around schedule options).run with
  | .ok () => return 0
  | .error failure =>
    modify (around.tell (.aborted failure))
    return 1

/-! ### Lines -/

/-- The name and version of the program. -/
def versionLine : String := "pipe_backup 0.1.0"

/-- Characters that would act on a terminal are written as their code. -/
def visible (c : Char) : List Char :=
  if c = '\x1b' then "\\x1b".toList
  else if c = '\x07' then "\\x07".toList
  else if c = '\x08' then "\\x08".toList
  else if c = '\x0c' then "\\x0c".toList
  else if c = '\x7f' then "\\x7f".toList
  else if 0x80 ≤ c.toNat ∧ c.toNat ≤ 0x9f then Text.escapedCode c
  else [c]

/-- The text that tells an event. -/
def logText (event : Event) : String :=
  event.level.name ++ " " ++ event.origin ++ ": " ++
    String.ofList (event.message.toList.flatMap visible)

/-- The lines that tell an event. -/
def logLines (event : Event) : List String :=
  Text.linesOf (logText event ++ "\n")

end FolderBackup.CommandLine
