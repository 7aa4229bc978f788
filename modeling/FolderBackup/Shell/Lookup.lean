import FolderBackup.Shell.Listing
import FolderBackup.Shell.Tool
import FolderBackup.Shell.Usage
import FolderBackup.Shell.Written

/-! What a name stands for.

The first word of a command is a word of the language, a function, a command of the shell itself or
a program that is found in one of the folders for them. -/
namespace FolderBackup.Shell.Lookup

/-- The commands of the shell itself. -/
def builtins : List String :=
  [".", ":", "[", "alias", "bg", "bind", "break", "builtin", "caller", "cd", "command", "compgen",
    "complete", "compopt", "continue", "declare", "dirs", "disown", "echo", "enable", "eval", "exec",
    "exit", "export", "false", "fc", "fg", "getopts", "hash", "help", "history", "jobs", "kill", "let",
    "local", "logout", "mapfile", "popd", "printf", "pushd", "pwd", "read", "readarray", "readonly",
    "return", "set", "shift", "shopt", "source", "suspend", "test", "times", "trap", "true", "type",
    "typeset", "ulimit", "umask", "unalias", "unset", "wait"]

/-! ### Programs -/

/-- The folder of the tools that can be started. -/
def toolFolder : String := "/tmp/bin"

/-- The folders that programs are looked for in. -/
def folders (session : Session) : List String :=
  match session.value? "PATH" with
  | some (.text text) => text.splitOn ":"
  | _ => []

/-- The path of a program in a folder, if it is there. -/
def inFolder? (session : Session) (name folder : String) : Option String :=
  let path := if folder.endsWith "/" then folder ++ name else folder ++ "/" ++ name
  let isThere :=
    if folder = toolFolder then session.world.hasTool (Octets.toText name)
    else Tool.isProgram session.world (Octets.toText path)
  if isThere then some path else none

/-- The path of the program that a name stands for. -/
def program? (session : Session) (name : String) : Option String :=
  if name = "" then none
  else if name.contains '/' then
    if Tool.isProgram session.world (Octets.toText name) then some name else none
  else (folders session).findSome? (inFolder? session name)

/-! ### Meanings -/

/-- What a name stands for. -/
inductive Meaning where
  | replaced (text : String)
  | keyword
  | function (body : Command)
  | builtin
  | program (path : String)

/-- Everything that a name stands for, what counts first. -/
def meanings (session : Session) (functions : Bool) (name : String) : List Meaning :=
  (if session.isOn "expand_aliases" then (session.aliases.lookup name).toList.map .replaced else []) ++
    (if keywords.contains name then [.keyword] else []) ++
    (if functions then (session.functions.lookup name).toList.map fun function =>
      .function function.body else []) ++
    (if builtins.contains name then [.builtin] else []) ++
    (program? session name).toList.map .program

/-- The kind of a meaning in one word. -/
def Meaning.kind : Meaning → String
  | .replaced _ => "alias"
  | .keyword => "keyword"
  | .function _ => "function"
  | .builtin => "builtin"
  | .program _ => "file"

/-- A meaning, told. -/
def Meaning.told (name : String) : Meaning → String
  | .replaced text => name ++ " is aliased to \x60" ++ text ++ "'"
  | .keyword => name ++ " is a shell keyword"
  | .function body => name ++ " is a function\n" ++ Written.functionText name body
  | .builtin => name ++ " is a shell builtin"
  | .program path => name ++ " is " ++ path

/-- What is written as a command to use a meaning. -/
def Meaning.usable (name : String) : Meaning → String
  | .replaced text => "alias " ++ name ++ "=" ++ String.ofList (Quoting.single text.toList)
  | .program path => path
  | _ => name

/-! ### Commands -/

/-- Tells what names stand for. -/
def type (arguments : List String) : Action Nat :=
  Usage.taking "type" "afptP" "" arguments fun found => do
    let mut status := 0
    for name in found.rest do
      let session ← get
      let all := meanings session (!found.has 'f') name
      let all := if found.has 'P' then all.filter (· matches .program _) else all
      let shown := if found.has 'a' then all else all.take 1
      if shown.isEmpty then
        status := 1
        if !found.has 't' && !found.has 'p' && !found.has 'P' then
          Action.complainAs "type" (name ++ ": not found")
      for meaning in shown do
        let text? := if found.has 't' then some meaning.kind
          else if found.has 'p' || found.has 'P' then
            match meaning with
            | .program path => some path
            | _ => none
          else some (meaning.told name)
        match text? with
        | some text =>
          let _ ← Action.write "type" (text ++ "\n")
        | none => pure ()
    return status

/-- Tells what is run for names. -/
def describe (long : Bool) (names : List String) : Action Nat := do
  let mut found := false
  for name in names do
    let session ← get
    match meanings session true name with
    | meaning :: _ =>
      let _ ← Action.write "command"
        ((if long then meaning.told name else meaning.usable name) ++ "\n")
      found := true
    | [] => if long then Action.complainAs "command" (name ++ ": not found")
  return if found then 0 else 1

/-- `hash` remembers where programs are. -/
def hash (arguments : List String) : Action Nat :=
  Usage.taking "hash" "lrdt" "p" arguments fun found => do
    if found.rest.isEmpty then
      if !found.has 'r' then
        let _ ← Action.write "hash" "hash: hash table empty\n"
      return 0
    let mut status := 0
    for name in found.rest do
      let session ← get
      let isKnown := name.contains '/' || builtins.contains name ||
        (session.functions.lookup name).isSome || (program? session name).isSome ||
        found.has 'p'
      if !isKnown then
        Action.complainAs "hash" (name ++ ": not found")
        status := 1
    return status

end FolderBackup.Shell.Lookup
