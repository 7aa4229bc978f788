import FolderBackup.FileName
import FolderBackup.Settings.Options
import FolderBackup.Text.Blank

/-! Folder entries.

An entry asks for one job: the folders to back up, as the shell reads them, the pipeline to
use, the connection if the pipeline needs one, and the name of the backup unless it is to be
derived from the folders. The folders must not be blank, and a name must be a file name. -/
namespace FolderBackup
open Yaml

/-- A folder list and what is to be done with it. -/
structure FolderEntry where
  folders : String
  connection : Option String
  pipeline : String
  fileName : Option String
  deriving DecidableEq, Repr

namespace FolderEntry
variable {σ ε : Type} [Source σ ε]

def shape : Shape σ ε FolderEntry :=
  FolderEntry.mk <$> Shape.required "folders" Source.string
    <*> Shape.nullable "connection" Source.string
    <*> Shape.required "pipeline" Source.string
    <*> Shape.nullable "file_name" Source.string

def read (tree : σ) : Except ε FolderEntry :=
  shape.read "struct FolderJobConfig" tree

/-- The rule that a name breaks if it is no file name. -/
def nameRule? (name : String) : Option Violation.Rule :=
  if FileName.isValid name then none else some (.fileName (FileName.sanitize name))

/-- The rule that a folder list breaks if it is blank. -/
def foldersRule? (folders : String) : Option Violation.Rule :=
  if Text.allBlank folders.toList then some .blank else none

def violations (entry : FolderEntry) : List Violation :=
  ((entry.fileName.bind nameRule?).map (Violation.ofField "file_name")).toList ++
    ((foldersRule? entry.folders).map (Violation.ofField "folders")).toList

def write (entry : FolderEntry) : Entries :=
  Options.entry "folders" (.text entry.folders) ::
    (Options.entry? "connection" (entry.connection.map .text) ++
      Options.entry "pipeline" (.text entry.pipeline) ::
        Options.entry? "file_name" (entry.fileName.map .text))

instance : Options FolderEntry where
  read := read
  violations := violations
  write := write

end FolderEntry

end FolderBackup
