/-! File trees.

A tree maps paths, as lists of names from the root, to files, folders, devices and programs. A path written as
text is followed name by name: every name but the last must lead to a folder, two dots lead
back, and one dot or nothing between two slashes stays where it is. -/
namespace FolderBackup

inductive FileTree.Entry where
  | file (content : List UInt8)
  | folder
  | device
  /-- A file that can be started. -/
  | program
  deriving DecidableEq, Repr

/-- A file that holds a text. -/
def FileTree.Entry.ofText (text : String) : FileTree.Entry := .file text.toUTF8.toList

/-- What is at each path. Of two entries at one path the first counts. -/
abbrev FileTree := List (List String × FileTree.Entry)

namespace FileTree

def get? (tree : FileTree) (path : List String) : Option Entry :=
  if path.isEmpty then some .folder
  else (tree.find? fun entry => entry.1 == path).map Prod.snd

def isFolder (tree : FileTree) (path : List String) : Bool :=
  tree.get? path == some .folder

/-- The names in a folder, each once. -/
def names (tree : FileTree) (folder : List String) : List String :=
  (tree.filterMap fun entry =>
    if entry.1.dropLast == folder then entry.1.getLast? else none).eraseDups

/-- The folders that a path leads through. -/
def parents (path : List String) : List (List String) :=
  (List.range path.length).map path.take |>.filter (!·.isEmpty)

/-- The tree with an entry put at a path, and with the folders that lead there. -/
def put (path : List String) (entry : Entry) (tree : FileTree) : FileTree :=
  (path, entry) :: tree ++ (parents path).map (·, Entry.folder)

/-- The names in a text between slashes; an empty one where a slash starts or ends it. -/
def split (path : String) : List String :=
  (path.toList.splitOn '/').map String.ofList

/-- What keeps a path from leading anywhere. -/
inductive Obstacle where
  | missing
  | notFolder
  | tooLong
  deriving DecidableEq, Repr

namespace Obstacle

def message : Obstacle → String
  | .missing => "No such file or directory"
  | .notFolder => "Not a directory"
  | .tooLong => "File name too long"

/-- The number that the system knows an obstacle by. -/
def number : Obstacle → Nat
  | .missing => 2
  | .notFolder => 20
  | .tooLong => 36

end Obstacle

/-- The longest name, in bytes. -/
def maxName : Nat := 255

/-- The longest path, in bytes. -/
def maxPath : Nat := 4095

/-- The path reached from a folder by going through some names. -/
def walk (tree : FileTree) : List String → List String → Except Obstacle (List String)
  | here, [] => .ok here
  | here, name :: rest =>
    if !tree.isFolder here then .error .notFolder
    else if name = "" ∨ name = "." then walk tree here rest
    else if name = ".." then walk tree here.dropLast rest
    else if maxName < name.utf8ByteSize then .error .tooLong
    else if (tree.get? (here ++ [name])).isSome then walk tree (here ++ [name]) rest
    else .error .missing

/-- The path that a text leads to from a folder. -/
def reach (tree : FileTree) (here : List String) (path : String) :
    Except Obstacle (List String) :=
  if path = "" then .error .missing
  else if maxPath < path.utf8ByteSize then .error .tooLong
  else walk tree (if path.startsWith "/" then [] else here) (split path)

/-- The path that a text leads to from a folder, if something is there. -/
def resolve (tree : FileTree) (here : List String) (path : String) : Option (List String) :=
  (tree.reach here path).toOption

/-- What a text leads to from a folder. -/
def find (tree : FileTree) (here : List String) (path : String) : Option Entry :=
  (tree.resolve here path).bind tree.get?

end FileTree

end FolderBackup
