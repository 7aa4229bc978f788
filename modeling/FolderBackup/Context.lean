import FolderBackup.Failure
import FolderBackup.Timestamp

/-! Contexts.

A context is what the steps of one job know: what to back up, where to and under which name,
and the moment. The one thing that changes while a command is built is the path that the
backup is saved at, which later steps need. -/
namespace FolderBackup

/-- What steps know of the job they are part of. -/
structure Context where
  folders : String
  connection : Option Connection
  fileName : String
  extensions : String
  threads : Option Nat
  time : Timestamp
  destination : Option String
  deriving DecidableEq, Repr

namespace Context

/-- The connection, which must be there. -/
def needConnection (context : Context) : Except Failure Connection :=
  match context.connection with
  | some connection => .ok connection
  | none => .error (.misconfigured (.connectionNeeded context.fileName))

/-- The path of the backup, which must have been saved. -/
def needDestination (context : Context) : Except Failure String :=
  match context.destination with
  | some path => .ok path
  | none => .error (.misconfigured .destinationUnknown)

/-- The moment as a part of a file name. -/
def date (context : Context) : String :=
  context.time.date

/-- The values for the template of a path. -/
def values (context : Context) (connection : Connection) : Template.Values :=
  { destFolder := connection.destFolder
    destFilename := context.fileName
    date := context.date
    extensions := context.extensions }

end Context

end FolderBackup
