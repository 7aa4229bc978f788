import FolderBackup.Settings.Options

/-! Connections.

A connection says where backups go: a host, a user to log in as, and a folder there. None of
the three may be empty. -/
namespace FolderBackup
open Yaml

/-- A host, the user to be there, and the folder for backups. -/
structure Connection where
  host : String
  remoteUser : String
  destFolder : String
  deriving DecidableEq, Repr

namespace Connection
variable {σ ε : Type} [Source σ ε]

def shape : Shape σ ε Connection :=
  Connection.mk <$> Shape.required "host" Source.string
    <*> Shape.required "remote_user" Source.string
    <*> Shape.required "dest_folder" Source.string

def read (tree : σ) : Except ε Connection :=
  shape.read "struct ConnectionConfig" tree

/-- The names of the fields that are empty, in order. -/
def emptyFields (connection : Connection) : List String :=
  [("dest_folder", connection.destFolder), ("host", connection.host),
    ("remote_user", connection.remoteUser)].filterMap fun (name, text) =>
      if text = "" then some name else none

/-- Whether no field is empty. -/
def isComplete (connection : Connection) : Bool :=
  connection.emptyFields.isEmpty

def write (connection : Connection) : Entries :=
  [Options.entry "host" (.text connection.host),
    Options.entry "remote_user" (.text connection.remoteUser),
    Options.entry "dest_folder" (.text connection.destFolder)]

instance : Options Connection where
  read := read
  violations connection := connection.emptyFields.map (Violation.ofField · .emptyText)
  write := write

end Connection

end FolderBackup
