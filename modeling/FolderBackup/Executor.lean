import FolderBackup.Job
import FolderBackup.Registry
import FolderBackup.Report

/-! Executors.

An executor holds the jobs of some settings. Loading resolves every pipeline, used or not,
and binds every job. A run verifies all jobs in order before the first one is executed. Jobs
are executed in order up to the first failure, or, if several may run at once, all of them,
in whatever order they are taken up; then the cores are shared among the jobs that run at
the same time, rounded up. -/
namespace FolderBackup
open Yaml

/-- Jobs that are ready to run, and how they are to be run. -/
structure Executor where
  execution : Execution
  pipelines : Roster Pipeline
  jobs : List Job
  cores : Nat

namespace Executor

/-! ### Loading -/

def pipelineHeading (name : String) : Heading :=
  .message ("Loading pipeline " ++ Text.quoted name ++ " failed")

/-- An operation that must be a pipeline. -/
def pipelineOf : Operation → Except Failure Pipeline
  | .pipeline locals remotes transport => .ok { locals, remotes, transport }
  | .step single => .error (.misconfigured (.notPipeline single.shown))

/-- The pipeline that a configuration describes. -/
def loadPipeline (registry : Registry) (name : String) (entries : Entries) :
    Except Failure Pipeline :=
  underHeading (pipelineHeading name) do
    pipelineOf (← registry.resolve Registry.pipelineField entries)

/-- The pipelines that configurations describe. -/
def loadPipelines (registry : Registry) (configurations : Roster Entries) :
    Except Failure (Roster Pipeline) :=
  configurations.mapM fun (name, entries) => do
    return (name, ← loadPipeline registry name entries)

/-- The numbers of remote steps dropped while pipelines are loaded. -/
def droppedLoading (registry : Registry) : Roster Entries → List Nat
  | [] => []
  | (name, entries) :: rest =>
    registry.dropped Registry.pipelineField entries ++
      if (loadPipeline registry name entries).isOk then droppedLoading registry rest else []

/-- The executor of some settings on a machine with some cores. -/
def ofSettings (cores : Nat) (registry : Registry) (settings : Settings) :
    Except Failure Executor := do
  let pipelines ← loadPipelines registry settings.pipelines
  let jobs ← settings.folders.mapM (Job.ofEntry pipelines settings.connections)
  return { execution := settings.execution, pipelines, jobs, cores }

variable {σ : Type}

/-- The executor of some settings, and what is worth telling about it. -/
def load (around : Surroundings σ) (registry : Registry) (settings : Settings) :
    Activity σ Executor := do
  Activity.change (around.tellAll
    ((droppedLoading registry settings.pipelines).map .remotesIgnored))
  let executor ← Activity.settled (ofSettings around.cores registry settings)
  Activity.change (around.tell (.loaded executor.pipelines.length executor.jobs.length))
  pure executor

/-! ### Threads -/

/-- The executor on a machine with some other number of cores; there is at least one. -/
def withCores (cores : Nat) (executor : Executor) : Executor :=
  { executor with cores := max 1 cores }

/-- How many jobs may run at once; at least one. -/
def parallelJobs (executor : Executor) : Nat :=
  max 1 executor.execution.parallelJobs

/-- The threads for each of the jobs that run at once. -/
def threadBudget (executor : Executor) : Nat :=
  (executor.cores + executor.parallelJobs - 1) / executor.parallelJobs

/-- The executor whose jobs have their threads: all the same share if several run at once. -/
def prepared (executor : Executor) : Executor :=
  if executor.parallelJobs = 1 then executor
  else { executor with
    jobs := executor.jobs.map fun job => { job with threads := some executor.threadBudget } }

/-! ### Verification -/

/-- The check of all jobs in order, up to the first that fails. -/
def verifyAll (around : Surroundings σ) (executor : Executor) : Activity σ Unit := do
  executor.jobs.forM (Job.verify around)
  Activity.change (around.tell (.verified executor.jobs.length))

/-! ### Execution -/

/-- All jobs executed in order, up to the first that fails. -/
def executeInOrder (around : Surroundings σ) (runner : Runner σ) (executor : Executor) :
    Activity σ Report := do
  let outcomes ← executor.jobs.mapM fun job => do
    job.execute around runner
    return { job := job.name, result := .ok () }
  return { outcomes }

/-- A job executed, whatever becomes of it; a failure is told. -/
def attempt (around : Surroundings σ) (runner : Runner σ) (job : Job) : StateM σ Outcome := do
  let result ← (job.execute around runner).run
  match result with
  | .ok () => pure ()
  | .error failure => modify (around.tell (.jobFailed failure))
  return { job := job.name, result }

/-- An order in which jobs are taken up: their positions. -/
abbrev Schedule := List Nat

/-- The order of the jobs themselves. -/
def inOrder (executor : Executor) : Schedule :=
  List.range executor.jobs.length

/-- All jobs executed in the order of a schedule; the report is in the order of the jobs. -/
def executeAll (around : Surroundings σ) (runner : Runner σ) (schedule : Schedule)
    (executor : Executor) : StateM σ Report := do
  let attempts ← schedule.mapM fun position => do
    match executor.jobs[position]? with
    | none => return (position, none)
    | some job => return (position, some (← attempt around runner job))
  return { outcomes := executor.inOrder.filterMap fun position =>
    (attempts.lookup position).join }

/-- All jobs executed; their executor is handed on with the threads its jobs have then. -/
def execute (around : Surroundings σ) (runner : Runner σ) (schedule : Schedule) :
    Handing Executor σ Report := do
  let executor ← get
  if executor.parallelJobs = 1 then
    Handing.ofActivity fun executor => executor.executeInOrder around runner
  else
    Handing.ofActivity fun executor => Activity.change (around.tell
      (.running executor.jobs.length executor.parallelJobs executor.threadBudget))
    set executor.prepared
    Handing.ofActivity fun executor => ExceptT.lift (executor.executeAll around runner schedule)

/-- All jobs verified, and only then executed. -/
def run (around : Surroundings σ) (runner : Runner σ) (schedule : Schedule) :
    Handing Executor σ Report := do
  Handing.ofActivity fun executor => executor.verifyAll around
  execute around runner schedule

end Executor

end FolderBackup
