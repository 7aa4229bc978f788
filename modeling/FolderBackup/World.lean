import FolderBackup.FileTree

/-! The world that jobs run in.

A world is what the steps look at: the tools that can be started and how they end, the keys
that can be used, and the files. Paths start at the current folder. -/
namespace FolderBackup

/-- A key that can be used, and the home folder it is kept in; empty for the usual one. -/
structure World.Key where
  key : String
  homedir : String
  deriving DecidableEq, Repr

/-- The tools, keys and files there are. -/
structure World where
  /-- The tools that can be started, besides those that are always there. -/
  tools : List String
  /-- The tools that fail, or at least complain, and the code each ends with. -/
  exits : List (String × Nat)
  keys : List World.Key
  tree : FileTree
  /-- The path of the current folder. -/
  here : List String

namespace World

/-- The tools that are always there. -/
def basicTools : List String := ["which", "bash", "stat"]

/-- The tools that jobs use. -/
def usualTools : List String := ["tar", "pigz", "pbzip2", "gpg", "ssh"]

/-- Whether a tool can be started by its name. -/
def hasTool (world : World) (name : String) : Bool :=
  basicTools.contains name || world.tools.contains name

/-- The code that a tool ends with after a complaint, if it is one that complains. -/
def exitOf (world : World) (tool : String) : Option Nat :=
  (world.exits.find? fun entry => entry.1 == tool).map Prod.snd

/-- Whether a key is kept in a home folder. -/
def holdsKey (world : World) (key homedir : String) : Bool :=
  world.keys.contains { key, homedir }

/-- Where a path leads to. -/
def reach (world : World) (path : String) : Except FileTree.Obstacle (List String) :=
  world.tree.reach world.here path

/-- What a path leads to. -/
def find (world : World) (path : String) : Option FileTree.Entry :=
  world.tree.find world.here path

/-- Whether a path leads to anything. -/
def contains (world : World) (path : String) : Bool :=
  (world.find path).isSome

/-- The folder that a process finds what it has open in. -/
def descriptorFolder : List String := ["dev", "fd"]

/-- The folders that are there before anything is put into a world. -/
def standardFolders : List (List String) :=
  [["bin"], ["boot"], ["dev"], descriptorFolder, ["etc"], ["home"], ["lib"], ["media"], ["mnt"],
    ["opt"], ["proc"], ["root"], ["run"], ["sbin"], ["srv"], ["sys"], ["tmp"], ["usr"],
    ["usr", "bin"], ["usr", "lib"], ["usr", "local"], ["usr", "sbin"], ["usr", "share"], ["var"],
    ["var", "cache"], ["var", "lib"], ["var", "log"], ["var", "tmp"]]

/-- The files that are there before anything is put into a world. -/
def standardFiles : List (List String) :=
  [["etc", "hosts"], ["etc", "passwd"], ["etc", "group"], ["etc", "profile"]]

/-- The devices that are always there. -/
def standardDevices : List (List String) :=
  ["null", "zero", "full", "random", "urandom", "tty", "stdin", "stdout", "stderr"].map fun name =>
    ["dev", name]

/-- The world as a process sees it that has some descriptors open. -/
def withDescriptors (numbers : List Nat) (world : World) : World :=
  { world with
    tree := (numbers.map fun n => (descriptorFolder ++ [toString n], .device)) ++
      world.tree.filter (·.1.dropLast ≠ descriptorFolder) }

/-- The programs that are always there, by their names in the folders of programs. -/
def standardPrograms : List String :=
  ["sh", "bash", "dash", "ls", "cat", "cp", "mv", "rm", "ln", "echo", "true", "false", "mkdir",
    "rmdir", "mktemp", "chmod", "chown", "date", "dd", "df", "grep", "sed", "gzip", "tar", "sleep",
    "sync", "touch", "uname", "pwd", "ps", "which", "stat", "env", "find", "head", "tail", "id",
    "sort", "uniq", "wc", "tr", "cut", "tee", "test", "[", "printf", "basename", "dirname", "expr",
    "seq", "xargs", "awk", "perl", "yes", "du", "diff", "nproc", "readlink", "realpath"]

/-- The folders that programs are kept in. -/
def programFolders : List (List String) := [["bin"], ["usr", "bin"]]

/-- The current folder of a world that is made up. -/
def scratchFolder : List String := ["tmp", "world"]

/-- A world of the usual tools and no keys, with nothing in the current folder. -/
def usual : World where
  tools := usualTools
  exits := []
  keys := []
  tree := (scratchFolder :: standardFolders).map (·, .folder) ++
    standardFiles.map (·, .file []) ++ standardDevices.map (·, .device) ++
    ["0", "1", "2"].map (fun name => (descriptorFolder ++ [name], .device)) ++
    programFolders.flatMap fun folder =>
      standardPrograms.map fun name => (folder ++ [name], .program)
  here := scratchFolder

/-- The names of a path below the current folder. -/
def below (path : String) : List String :=
  (FileTree.split path).filter fun name => name ≠ "" ∧ name ≠ "."

/-- The world with an entry put below the current folder. -/
def put (path : String) (entry : FileTree.Entry) (world : World) : World :=
  { world with tree := FileTree.put (world.here ++ below path) entry world.tree }

end World

end FolderBackup
