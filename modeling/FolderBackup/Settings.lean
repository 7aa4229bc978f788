import FolderBackup.Settings.Connection
import FolderBackup.Settings.Execution
import FolderBackup.Settings.FolderEntry
import FolderBackup.Settings.Roster
import FolderBackup.Yaml.Place

/-! Settings.

Settings are read from one document: the named connections, how jobs are executed, the named
pipelines, each kept as it stands until it is resolved, and the folder entries. A document
that can be read is accepted if it breaks no rule; else all violations are reported. -/
namespace FolderBackup
open Yaml

/-- Everything that is set: the connections, how jobs run, the pipelines and the folders. -/
structure Settings where
  connections : Roster Connection
  execution : Execution
  pipelines : Roster Entries
  folders : List FolderEntry

/-- Why a text does not hold settings. -/
inductive Settings.Fault where
  | problem (found : Problem)
  | violations (found : List Violation)

namespace Settings

/-- Settings of nothing at all. -/
def none : Settings :=
  { connections := [], execution := {}, pipelines := [], folders := [] }

/-- The named things of a mapping, each of which the reader accepts. -/
def readRoster {α : Type} (read : Place → Except Problem α) (place : Place) :
    Except Problem (Roster α) := do
  let entries ← (← place.entries "a map").mapM fun (key, value) => do
    let name ← Source.string key
    let value ← read value
    return (name, value)
  return Roster.ofList entries

def shape : Shape Place Problem Settings :=
  Settings.mk <$> Shape.required "connection" (readRoster Connection.read)
    <*> Shape.defaulted "execution" {} Execution.read
    <*> Shape.required "pipelines" (readRoster Place.mapping)
    <*> Shape.required "folders" (Source.list FolderEntry.read)

def read (place : Place) : Except Problem Settings :=
  shape.read "struct GlobalConfig" place

/-- The connections that are not complete, with the fields that are empty. -/
def brokenConnections (connections : Roster Connection) : List (String × List String) :=
  (connections.map fun (name, connection) => (name, connection.emptyFields)).filter
    (!·.2.isEmpty)

/-- The rule that connections break if some are not complete. -/
def connectionsRule? (connections : Roster Connection) : Option Violation.Rule :=
  match brokenConnections connections with
  | [] => Option.none
  | broken => some (.connections broken)

def violations (settings : Settings) : List Violation :=
  ((connectionsRule? settings.connections).map (Violation.ofField "connection")).toList ++
    Violation.below [.field "execution"] settings.execution.violations ++
    (settings.folders.mapIdx fun index entry =>
      Violation.below [.field "folders", .index index] entry.violations).flatten

/-- The settings that a text holds. -/
def ofText (text : String) : Except Fault Settings :=
  match readText read text with
  | .error found => .error (.problem found)
  | .ok settings => match settings.violations with
    | [] => .ok settings
    | found => .error (.violations found)

/-- The settings as the root of a document. -/
def write (settings : Settings) : Entries :=
  let roster (entries : Roster Entries) : Value :=
    .mapping (entries.map fun (name, entries) => Options.entry name (.mapping entries))
  [Options.entry "connection"
      (roster (settings.connections.map fun (name, connection) => (name, connection.write))),
    Options.entry "execution" (.mapping settings.execution.write),
    Options.entry "pipelines" (roster settings.pipelines),
    Options.entry "folders" (.sequence (settings.folders.map (.mapping ·.write)))]

end Settings

end FolderBackup
