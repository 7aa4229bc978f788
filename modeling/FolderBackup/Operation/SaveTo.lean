import FolderBackup.Settings.Options
import FolderBackup.Template

/-! Where a backup is saved. -/
namespace FolderBackup
open Yaml

/-- The options of a step that saves a backup: the template of the path. -/
structure SaveTo where
  destFile : Template
  deriving DecidableEq, Repr

namespace SaveTo

def shape : Shape Value Mismatch SaveTo :=
  SaveTo.mk <$> Shape.required "dest_file" fun value => Template.mk <$> Source.string value

instance : Options SaveTo where
  read := shape.read "struct SaveBackupConfig"
  violations _ := []
  write options := [Options.entry "dest_file" (.text options.destFile.text)]

end SaveTo

end FolderBackup
