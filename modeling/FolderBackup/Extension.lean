/-! The suffix of a backup's file name.

Every step may contribute an extension. The suffix is the contributions in order, each
after a dot; steps that contribute none, or an empty one, leave no trace. -/
namespace FolderBackup.Extension

/-- The extensions in order, each after a dot, without the missing and the empty ones. -/
def suffix (extensions : List (Option String)) : String :=
  String.join ((extensions.filterMap id).filter (· ≠ "") |>.map ("." ++ ·))

end FolderBackup.Extension
