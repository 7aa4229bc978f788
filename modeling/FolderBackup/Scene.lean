import FolderBackup.Surroundings

/-! Scenes.

A scene is a world that changes by the scripts run in it alone, at a time that stands still,
with the events told so far. It makes whole runs into plain functions. -/
namespace FolderBackup

/-- A world at a moment, and what has been told so far. -/
structure Scene where
  world : World
  time : Timestamp
  told : List Event

namespace Scene

/-- The scene of a world, before anything is told. -/
def ofWorld (world : World) (time : Timestamp) : Scene :=
  { world, time, told := [] }

/-- Scenes as surroundings. -/
def surroundings (cores : Nat) : Surroundings Scene where
  cores := cores
  look scene := (scene.world, scene)
  now scene := (scene.time, scene)
  tell event scene := { scene with told := scene.told ++ [event] }
  run script scene :=
    let outcome := Shell.runScript scene.world script
    ((outcome.status, outcome.complaint), { scene with world := outcome.world })

end Scene

end FolderBackup
