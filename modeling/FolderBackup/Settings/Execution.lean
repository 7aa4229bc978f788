import FolderBackup.Settings.Options

/-! How jobs are executed.

Up to `parallelJobs` jobs run at once; one, which is also the default, runs them in order. -/
namespace FolderBackup
open Yaml

/-- How jobs run: so many at the same time. -/
structure Execution where
  parallelJobs : Nat := 1
  deriving DecidableEq, Repr

namespace Execution
variable {σ ε : Type} [Source σ ε]

def shape : Shape σ ε Execution :=
  Execution.mk <$> Shape.aliased "parallel_jobs" ["parralel_jobs"] 1 Source.count

def read (tree : σ) : Except ε Execution :=
  shape.read "struct ExecutionConfig" tree

def violations (execution : Execution) : List Violation :=
  Violation.ofNumber "parallel_jobs" 1 none execution.parallelJobs

def write (execution : Execution) : Entries :=
  [Options.entry "parallel_jobs" (Options.natural execution.parallelJobs)]

instance : Options Execution where
  read := read
  violations := violations
  write := write

end Execution

end FolderBackup
