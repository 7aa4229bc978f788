import FolderBackup.Operation
import FolderBackup.Settings
import FolderBackup.Text.Lines

/-! Failures.

A failure has a cause, and on the way up is put under headings that say what was being done.
Several failures can be reported as one. The root of a failure is what is left without its
headings. A failure is one of configuration if its root says that settings, a configuration
or a check made beforehand is wrong, or if it collects such failures only. -/
namespace FolderBackup

/-- What can be wrong with a configuration, or be found missing before anything is run. -/
inductive Misconfiguration where
  | kindMissing (field : String)
  | options (kind : String) (fault : Options.Fault)
  | placeholders (template : String) (unknown : List String)
  | notPipeline (shown : String)
  | unknownPipeline (name : String)
  | unknownConnection (name : String)
  | connectionNeeded (job : String)
  | destinationUnknown
  | toolMissing (tool : String)
  | noFolders
  | foldersMissing (words : List String)
  | keyRefused (key : String) (complaint : String)
  | other (text : String)

def Misconfiguration.message : Misconfiguration → String
  | .kindMissing field => "Operation config is missing string field " ++ Text.quoted field
  | .options kind fault => "Invalid " ++ Text.quoted kind ++ " operation config: " ++ fault.message
  | .placeholders template unknown =>
    "Unknown placeholders in dest_file " ++ Text.quoted template ++ ": " ++
      String.intercalate ", " unknown
  | .notPipeline shown => "Expected a pipeline, got " ++ shown
  | .unknownPipeline name => "Unknown pipeline " ++ Text.quoted name
  | .unknownConnection name => "Unknown connection " ++ Text.quoted name
  | .connectionNeeded job =>
    "Job " ++ Text.quoted job ++ " needs a connection but none is configured"
  | .destinationUnknown =>
    "Destination file path is not known yet, a \"save backup\" step must run first"
  | .toolMissing tool => "Command does not exist: " ++ tool
  | .noFolders => "No folders to archive"
  | .foldersMissing words =>
    "Referenced paths do not exist: " ++ String.intercalate ", " words
  | .keyRefused key complaint => "Couldn't use key " ++ Text.quoted key ++ ": " ++ complaint
  | .other text => text

/-- How a command ended, by itself with a code or by a signal, or what else became of it. -/
inductive ExitStatus where
  | code (value : Nat)
  | signal (number : Nat) (dumped : Bool)
  | stopped (number : Nat)
  | continued
  | unknown (word : Int)
  deriving DecidableEq, Repr

namespace ExitStatus

def isSuccess (status : ExitStatus) : Bool :=
  status == .code 0

/-- The status that a process's waiting parent is told as a number: the lowest seven bits are
the signal, or else the second byte is the code. If all seven are set the process has not
ended. -/
def ofWait (word : Int) : ExitStatus :=
  let signal := (word % 128).toNat
  let second := (word / 256 % 256).toNat
  if signal = 0 then .code second
  else if signal < 127 then .signal signal (word / 128 % 2 = 1)
  else if word % 256 = 127 then .stopped second
  else if word = 0xFFFF then .continued
  else .unknown word

/-- The names of the signals. -/
def signalName (number : Nat) : Option String :=
  ["", "HUP", "INT", "QUIT", "ILL", "TRAP", "ABRT", "BUS", "FPE", "KILL", "USR1", "SEGV", "USR2",
    "PIPE", "ALRM", "TERM", "STKFLT", "CHLD", "CONT", "STOP", "TSTP", "TTIN", "TTOU", "URG",
    "XCPU", "XFSZ", "VTALRM", "PROF", "WINCH", "IO", "PWR", "SYS"][number]?.bind fun name =>
      if name = "" then none else some ("SIG" ++ name)

/-- A signal's number, and its name if it has one. -/
def signalText (number : Nat) : String :=
  toString number ++ ((signalName number).map fun name => " (" ++ name ++ ")").getD ""

def message : ExitStatus → String
  | .code value => "exit status: " ++ toString value
  | .signal number dumped =>
    "signal: " ++ signalText number ++ (if dumped then " (core dumped)" else "")
  | .stopped number => "stopped (not terminated) by signal: " ++ signalText number
  | .continued => "continued (WIFCONTINUED)"
  | .unknown word =>
    "unrecognised wait status: " ++ toString word ++ " 0x" ++
      String.ofList (Nat.toDigits 16 (word % UInt32.size).toNat)

end ExitStatus

/-- What was being done when something failed. -/
inductive Heading where
  | message (text : String)
  /-- Something shown, and what was being done with it. -/
  | subject (shown : String) (activity : String)
  deriving DecidableEq, Repr

namespace Heading

/-- The heading without its colon. -/
def brief : Heading → String
  | .message text => text
  | .subject shown activity => shown ++ " " ++ activity

/-- The line above what failed. -/
def line : Heading → String
  | .message text => text ++ ":"
  | .subject shown activity => shown ++ " " ++ activity ++ " failed:"

end Heading

/-- Why something could not be done. -/
inductive Failure where
  | system (message : String)
  | violations (found : List Violation)
  | document (problem : Yaml.Problem)
  /-- The document cannot be read from where it is kept. -/
  | unreadable (message : String)
  | misconfigured (fault : Misconfiguration)
  | unknownKind (kind : String)
  | noReverse (kind : String)
  | commandFailed (command : String) (status : ExitStatus) (complaint : String)
  | within (heading : Heading) (inner : Failure)
  | several (failures : List Failure)

namespace Failure

/-- What failed, under the message. -/
def under (failure : Failure) (text : String) : Failure :=
  .within (.message text) failure

mutual

def message : Failure → String
  | .system text => text
  | .violations found => Violation.messages found
  | .document problem => problem.message
  | .unreadable text => text
  | .misconfigured fault => "Configuration error: " ++ fault.message
  | .unknownKind kind => "Unknown operation kind " ++ Text.quoted kind
  | .noReverse kind => "Operation " ++ Text.quoted kind ++ " does not support backward"
  | .commandFailed command status complaint =>
    "Command " ++ Text.quoted command ++ " exited with " ++ status.message ++ ":\n" ++
      Text.indent complaint
  | .within heading inner => heading.line ++ "\n" ++ Text.indent inner.message
  | .several failures => String.intercalate "\n\n" (messages failures)

def messages : List Failure → List String
  | [] => []
  | failure :: rest => failure.message :: messages rest

end

/-- The failure without its headings. -/
def root : Failure → Failure
  | .within _ inner => inner.root
  | failure => failure

/-- The headings of a failure, outermost first. -/
def headings : Failure → List Heading
  | .within heading inner => heading :: inner.headings
  | _ => []

mutual

/-- Whether settings, a configuration or a check made beforehand is what is wrong. -/
def isConfiguration : Failure → Bool
  | .violations _ => true
  | .document _ => true
  | .unreadable _ => true
  | .misconfigured _ => true
  | .within _ inner => inner.isConfiguration
  | .several failures => areConfiguration failures
  | _ => false

def areConfiguration : List Failure → Bool
  | [] => true
  | failure :: rest => failure.isConfiguration && areConfiguration rest

end

mutual

/-- The failures that a failure collects, at any depth; one that collects none is its own. -/
def parts : Failure → List Failure
  | .several failures => partsOf failures
  | failure => [failure]

def partsOf : List Failure → List Failure
  | [] => []
  | failure :: rest => failure.parts ++ partsOf rest

end

/-- Two failures as one. -/
def chain (first second : Failure) : Failure :=
  .several (first.parts ++ second.parts)

/-- Some failures as one; there is none for no failures. -/
def ofList? : List Failure → Option Failure
  | [] => none
  | failures => some (.several (partsOf failures))

/-- Success unless there are failures. -/
def collect (failures : List Failure) : Except Failure Unit :=
  match ofList? failures with
  | none => .ok ()
  | some failure => .error failure

end Failure

/-- Any failure is put under the heading. -/
def underHeading {α : Type} (heading : Heading) : Except Failure α → Except Failure α
  | .ok value => .ok value
  | .error failure => .error (.within heading failure)

end FolderBackup
