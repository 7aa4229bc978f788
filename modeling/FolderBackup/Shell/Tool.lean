import FolderBackup.Shell.Session

/-! Tools.

A tool that can be started takes the place of a real one. What it comes to is a status and what it
complains about. -/
namespace FolderBackup.Shell.Tool

/-- What a tool comes to. -/
structure Report where
  status : Nat
  complaint : String
  deriving DecidableEq, Repr

namespace Report

def quiet (status : Nat) : Report := { status, complaint := "" }

end Report

/-! ### Keys -/

/-- The key and the home folder that arguments of the key tool name: each option takes the argument
after it, and the last ones count. -/
def keyAndHome : String → String → List String → String × String
  | key, home, [] => (key, home)
  | key, home, [option] =>
    if option = "--homedir" then (key, "")
    else if option = "--recipient" ∨ option = "--local-user" then ("", home)
    else (key, home)
  | key, home, option :: value :: rest =>
    if option = "--homedir" then keyAndHome key value rest
    else if option = "--recipient" ∨ option = "--local-user" then keyAndHome value home rest
    else keyAndHome key home (value :: rest)

/-- What the key tool comes to: it wants the key it is given in the home folder it is given. -/
def ofKeys (world : World) (arguments : List String) : Report :=
  let (key, home) := keyAndHome "" "" arguments
  if world.holdsKey key home then .quiet 0
  else { status := 2, complaint := "gpg: " ++ key ++ ": skipped: No public key\n" ++
          "gpg: [stdin]: failed\n" }

/-! ### Files -/

/-- The long options of `stat` that only inform. -/
def informs (argument : String) : Bool :=
  3 ≤ argument.length && ("--help".startsWith argument || "--version".startsWith argument)

/-- Whether `stat` finds what is named by an argument. A hyphen is the input itself. -/
def statFinds (world : World) (argument : String) : Bool :=
  if argument.startsWith "-" then argument == "-" || informs argument
  else world.contains argument

/-- What `stat` comes to for some arguments. -/
def ofFiles (world : World) (arguments : List String) : Report :=
  let after := (arguments.dropWhile (· ≠ "--")).tail
  let before := arguments.takeWhile (· ≠ "--")
  let operands := (before.filter fun a => a = "-" ∨ !a.startsWith "-") ++ after
  let options := before.filter fun a => a ≠ "-" ∧ a.startsWith "-"
  if options.any informs then .quiet 0
  else if options.any fun option => !(["-t", "-L", "-f", "--terse"].contains option) then
    { status := 1, complaint := "stat: invalid option\n" }
  else if operands.isEmpty then { status := 1, complaint := "stat: missing operand\n" }
  else match operands.filter fun operand => operand ≠ "-" ∧ !world.contains operand with
    | [] => .quiet 0
    | missing => { status := 1, complaint := String.join (missing.map fun operand =>
        "stat: cannot statx '" ++ operand ++ "': No such file or directory\n") }

/-! ### Looking tools up -/

/-- Whether a path leads to something that can be started. -/
def isProgram (world : World) (path : String) : Bool :=
  world.find path == some .program

/-- Whether `which` finds a tool. -/
def whichFinds (world : World) (tool : String) : Bool :=
  if tool = "" then false
  else if tool.startsWith "-" then false
  else if tool.contains '/' then isProgram world tool
  else world.hasTool tool

/-- What a tool comes to, unless it is one that runs scripts. -/
def start (world : World) (tool : String) (arguments : List String) : Report :=
  if tool = "which" then
    .quiet (if arguments.all (whichFinds world) && !arguments.isEmpty then 0 else 1)
  else if tool = "stat" then ofFiles world arguments
  else match world.exitOf tool with
    | some code => { status := code % 256, complaint := tool ++ ": failed\n" }
    | none => if tool = "gpg" then ofKeys world arguments else .quiet 0

end FolderBackup.Shell.Tool
