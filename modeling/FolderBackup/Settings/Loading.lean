import FolderBackup.Failure
import FolderBackup.Text.Lossy
import FolderBackup.World

/-! Settings from a file. -/
namespace FolderBackup

/-- Why a text does not hold settings, as a failure. -/
def Settings.Fault.toFailure : Settings.Fault → Failure
  | .problem found => .document found
  | .violations found => .violations found

namespace Settings

/-- The settings that a text holds. -/
def ofDocument (text : String) : Except Failure Settings :=
  (ofText text).mapError Fault.toFailure

/-- The text under a path. -/
def textUnder (world : World) (path : String) : Except Failure String :=
  match world.reach path with
  | .error obstacle =>
    .error (.system (obstacle.message ++ " (os error " ++ toString obstacle.number ++ ")"))
  | .ok place => match world.tree.get? place with
    | some (.file content) => .ok (Text.ofBytes content)
    | some .device => .ok ""
    | _ => .error (.unreadable "Is a directory (os error 21)")

def loadHeading (path : String) : Heading :=
  .message ("Load config failed: " ++ Text.quoted path)

/-- The settings in the file under a path. -/
def load (world : World) (path : String) : Except Failure Settings :=
  underHeading (loadHeading path) do
    ofDocument (← textUnder world path)

end Settings

end FolderBackup
