import FolderBackup.CommandLine
import FolderBackup.Scene

/-! The program.

The program takes a picture of the world it is started in: the tools that can be found, the
folders that matter, the file with the settings, the number of cores and the time. The run
happens in that picture, so what a command would change is changed there only, and no key is
known there. -/
namespace FolderBackup.Main

/-- How the program is called. -/
def usage : String :=
  "Turns a backup config into shell pipelines and runs them\n\n" ++
    "Usage: pipe_backup [OPTIONS] --config <CONFIG>\n\n" ++
    "Options:\n" ++
    "  -c, --config <CONFIG>  Location of config file\n" ++
    "      --verify-only      Stop after verifying every job\n" ++
    "      --dry-run          Verify, then log every job's command without running it\n" ++
    "  -h, --help             Print help\n" ++
    "  -V, --version          Print version"

/-- A path from the root. -/
def pathText (names : List String) : String :=
  "/" ++ String.intercalate "/" names

/-- The names of a path, without empty ones. -/
def namesOf (path : String) : List String :=
  (FileTree.split path).filter (· ≠ "")

/-- The folders on the way to every word of the settings' folder lists. -/
def foldersNamed (text : String) (here : List String) : List (List String) :=
  match Settings.ofText text with
  | .error _ => []
  | .ok settings => settings.folders.flatMap fun entry =>
    (entry.folders.splitOn " ").flatMap fun word =>
      FileTree.parents (if word.startsWith "/" then namesOf word else here ++ namesOf word)

/-- What is in a folder; nothing if it cannot be read. -/
def entriesIn (folder : List String) : IO FileTree := do
  let start ← IO.currentDir
  try
    let found ← (start / pathText folder).readDir
    found.toList.mapM fun entry => do
      let isFolder ← (start / pathText (folder ++ [entry.fileName])).isDir
      return (folder ++ [entry.fileName], if isFolder then .folder else .file [])
  catch _ => return []

/-- The text of a file, if it can be read. -/
def textOf? (path : String) : IO (Option String) := do
  try return some (← IO.FS.readFile path)
  catch _ => return none

/-- The number of cores. -/
def coreCount : IO Nat := do
  let lines := ((← textOf? "/proc/cpuinfo").getD "").splitOn "\n"
  return max 1 (lines.filter (·.startsWith "processor")).length

/-- The tools that can be found. -/
def toolsFound : IO (List String) := do
  let folders := ((← IO.getEnv "PATH").getD "").splitOn ":"
  let found ← folders.mapM fun folder => entriesIn (namesOf folder)
  return found.flatten.filterMap fun entry => entry.1.getLast?

/-- The time, as that of a file made now. -/
def timeNow : IO Timestamp := do
  let (_, path) ← IO.FS.createTempFile
  let modified := (← path.metadata).modified
  IO.FS.removeFile path
  return { seconds := modified.sec, nanoseconds := modified.nsec.toNat }

/-- The picture of the world for a run with some settings. -/
def picture (settingsPath : String) : IO World := do
  let here := namesOf (← IO.currentDir).toString
  let text? ← textOf? settingsPath
  let named := foldersNamed (text?.getD "") here
  let folders := ([] :: here :: FileTree.parents here ++ named).eraseDups
  let found ← folders.mapM entriesIn
  let world : World :=
    { tools := ← toolsFound, exits := [], keys := [], tree := found.flatten, here }
  let place := if settingsPath.startsWith "/" then namesOf settingsPath
    else here ++ namesOf settingsPath
  return match text? with
    | some text => { world with tree := FileTree.put place (.ofText text) world.tree }
    | none => world

end FolderBackup.Main

open FolderBackup in
def main (arguments : List String) : IO UInt32 := do
  match CommandLine.requestOf arguments with
  | .help =>
    IO.println Main.usage
    return 0
  | .version =>
    IO.println CommandLine.versionLine
    return 0
  | .misuse =>
    IO.eprintln Main.usage
    return 2
  | .perform options =>
    let scene := Scene.ofWorld (← Main.picture options.settingsPath) (← Main.timeNow)
    let around := Scene.surroundings (← Main.coreCount)
    let (status, after) := (CommandLine.status around Executor.inOrder options).run scene
    for event in after.told do
      for line in CommandLine.logLines event do
        IO.println line
    return status.toUInt32
