import FolderBackup.Failure

/-! Events.

What is worth telling while settings are loaded and jobs are verified and run. An event has a
level, the part of the program that tells it, and a message. -/
namespace FolderBackup

/-- Something worth telling. -/
inductive Event where
  /-- A pipeline of commands has remote steps, which are dropped. -/
  | remotesIgnored (count : Nat)
  | loaded (pipelines jobs : Nat)
  | verified (jobs : Nat)
  /-- Jobs start to run, several at a time. -/
  | running (jobs atATime threads : Nat)
  | started (job command : String)
  /-- A command is shown instead of being run. -/
  | rehearsed (job command : String)
  | jobFailed (failure : Failure)
  | finished (jobs failed : Nat)
  | aborted (failure : Failure)

namespace Event

/-- How serious an event is. -/
inductive Level where
  | info
  | warning
  | error
  deriving DecidableEq, Repr

def Level.name : Level → String
  | .info => "INFO"
  | .warning => "WARN"
  | .error => "ERROR"

def level : Event → Level
  | .remotesIgnored _ => .warning
  | .jobFailed _ => .error
  | .aborted _ => .error
  | _ => .info

/-- The part of the program that tells of an event. -/
def origin : Event → String
  | .remotesIgnored _ => "pipe_backup::backup::pipeline"
  | .loaded _ _ => "pipe_backup::backup::executor"
  | .verified _ => "pipe_backup::backup::executor"
  | .running _ _ _ => "pipe_backup::backup::executor"
  | .jobFailed _ => "pipe_backup::backup::executor"
  | .started _ _ => "pipe_backup::backup::shell"
  | .rehearsed _ _ => "pipe_backup::backup::shell"
  | .finished _ _ => "pipe_backup"
  | .aborted _ => "pipe_backup"

def message : Event → String
  | .remotesIgnored count =>
    "Command pipeline ignores its " ++ toString count ++ " remote operation(s)"
  | .loaded pipelines jobs =>
    "Loaded " ++ toString pipelines ++ " pipeline(s) and " ++ toString jobs ++ " job(s)"
  | .verified jobs => "Verification done for " ++ toString jobs ++ " job(s)"
  | .running jobs atATime threads =>
    "Running " ++ toString jobs ++ " job(s), " ++ toString atATime ++ " at a time, " ++
      toString threads ++ " compression thread(s) each"
  | .started job command => "[" ++ job ++ "] running: " ++ command
  | .rehearsed job command => "[" ++ job ++ "] dry run: " ++ command
  | .jobFailed failure => failure.message
  | .finished jobs failed =>
    toString jobs ++ " job(s) finished, " ++ toString failed ++ " failed"
  | .aborted failure => failure.message

end Event

end FolderBackup
