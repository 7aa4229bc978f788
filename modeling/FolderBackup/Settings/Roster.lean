/-! Rosters.

A roster holds things under names, sorted by name. Of two things put under one name it holds
the later one. -/
namespace FolderBackup

abbrev Roster (α : Type) := List (String × α)

namespace Roster
variable {α β : Type}

/-- The roster with a thing put under a name. -/
def put (name : String) (value : α) : Roster α → Roster α
  | [] => [(name, value)]
  | (other, old) :: rest =>
    if name < other then (name, value) :: (other, old) :: rest
    else if name = other then (name, value) :: rest
    else (other, old) :: put name value rest

/-- The roster of some named things. -/
def ofList (entries : List (String × α)) : Roster α :=
  entries.foldl (fun roster entry => roster.put entry.1 entry.2) []

/-- The thing under a name. -/
def get? (roster : Roster α) (name : String) : Option α :=
  (roster.find? fun entry => entry.1 == name).map Prod.snd

end Roster

end FolderBackup
