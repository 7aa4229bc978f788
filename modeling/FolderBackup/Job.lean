import FolderBackup.Operation.Forward
import FolderBackup.Runner

/-! Jobs.

A job is a folder entry bound to the pipeline and the connection it names. Its name is the
file name given, or else one derived from its folders. The command of a job is built anew
whenever it is needed, at the time it then is; verifying a job is building its command. -/
namespace FolderBackup

/-- A folder list, and the pipeline and connection it is backed up with. -/
structure Job where
  entry : FolderEntry
  name : String
  pipeline : Pipeline
  connection : Option Connection
  /-- The threads for compression, set only when jobs run at the same time. -/
  threads : Option Nat

namespace Job

/-- The pipeline of a name. -/
def pipelineNamed (pipelines : Roster Pipeline) (name : String) : Except Failure Pipeline :=
  match pipelines.get? name with
  | some pipeline => .ok pipeline
  | none => .error (.misconfigured (.unknownPipeline name))

/-- The connection of a name. -/
def connectionNamed (connections : Roster Connection) (name : String) :
    Except Failure Connection :=
  match connections.get? name with
  | some connection => .ok connection
  | none => .error (.misconfigured (.unknownConnection name))

/-- The job that a folder entry asks for. -/
def ofEntry (pipelines : Roster Pipeline) (connections : Roster Connection)
    (entry : FolderEntry) : Except Failure Job := do
  let pipeline ← pipelineNamed pipelines entry.pipeline
  let connection ← entry.connection.mapM (connectionNamed connections)
  return {
    entry, pipeline, connection
    name := entry.fileName.getD (FileName.ofFolders entry.folders)
    threads := none }

/-- The context that a job's command is built in. -/
def context (job : Job) (time : Timestamp) : Context where
  folders := job.entry.folders
  connection := job.connection
  fileName := job.name
  extensions := job.pipeline.extensions
  threads := job.threads
  time := time
  destination := none

def verifyHeading (job : Job) : Heading :=
  .message ("Verification of job " ++ Text.quoted job.name ++ " failed")

def runHeading (job : Job) : Heading :=
  .message ("Job " ++ Text.quoted job.name ++ " failed")

variable {σ : Type}

/-- The command of a job at a time. -/
def commandAt (around : Surroundings σ) (job : Job) (time : Timestamp) : Activity σ String :=
  (job.pipeline.forward around).startingWith (job.context time)

/-- The command of a job now. -/
def command (around : Surroundings σ) (job : Job) : Activity σ String := do
  let time ← Activity.ask around.now
  job.commandAt around time

/-- The check that a job's command can be built. -/
def verify (around : Surroundings σ) (job : Job) : Activity σ Unit :=
  Activity.under job.verifyHeading do
    let _ ← job.command around
    pure ()

/-- A job's command, handed to a runner. -/
def execute (around : Surroundings σ) (runner : Runner σ) (job : Job) : Activity σ Unit := do
  let command ← job.command around
  Activity.under job.runHeading (runner job.name command)

end Job

end FolderBackup
