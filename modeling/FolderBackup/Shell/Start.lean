import FolderBackup.Shell.Lookup
import FolderBackup.Shell.Places

/-! Sessions in the beginning.

A script starts with a few variables, and with nothing to read. A script that another one starts sees
the variables and functions that are meant for processes. -/
namespace FolderBackup.Shell

/-- Where a script is kept while it runs. -/
def scriptPlace : List String := ["tmp", ".tmpscript"]

/-- The name of a script: the path that it is started by. -/
def scriptName : String := Places.shown scriptPlace

namespace Session

/-- A variable that processes see. -/
def exportedText (text : String) : Variable := { Variable.ofText text with isExported := true }

/-- A number that may not be changed. -/
def fixedNumber (n : Nat) : Variable :=
  { Variable.ofText (toString n) with isInteger := true, isReadonly := true }

/-- A variable that tells about the session. -/
def made (value : Value) (isInteger isReadonly : Bool) : Variable :=
  { Variable.plain value with isMade := true, isInteger, isReadonly }

/-- The variables that tell about the session. -/
def madeVariables : List (String × Variable) :=
  let plain := made .unset false false
  let number := made .unset true false
  let list := made (.list []) false false
  [("BASHOPTS", made .unset false true), ("BASHPID", number),
    ("BASH_ALIASES", made (.table []) false false), ("BASH_ARGC", list), ("BASH_ARGV", list),
    ("BASH_ARGV0", plain), ("BASH_LINENO", list),
    ("BASH_SOURCE", list), ("BASH_SUBSHELL", plain), ("COMP_WORDBREAKS", plain), ("DIRSTACK", list),
    ("EPOCHREALTIME", plain), ("EPOCHSECONDS", plain), ("FUNCNAME", { list with isGiven := false }),
    ("GROUPS", list), ("HISTCMD", number), ("LINENO", plain), ("PIPESTATUS", list),
    ("RANDOM", number), ("SECONDS", number), ("SHELLOPTS", made .unset false true),
    ("SRANDOM", number)]

/-- The variables that every script has in the beginning. -/
def ownVariables (world : World) : List (String × Variable) :=
  madeVariables ++
  [("BASH", .ofText (Lookup.toolFolder ++ "/bash")),
    ("BASH_CMDS", .plain (.table [])),
    ("BASH_COMMAND", .plain .unset),
    ("BASH_LOADABLES_PATH", .ofText ("/usr/local/lib/bash:/usr/lib/bash:/opt/local/lib/bash:" ++
      "/usr/pkg/lib/bash:/opt/pkg/lib/bash:.")),
    ("BASH_VERSINFO", { Variable.plain (.ofTexts
        ["5", "2", "21", "1", "release", "x86_64-pc-linux-gnu"]) with isReadonly := true }),
    ("BASH_VERSION", .ofText "5.2.21(1)-release"), ("EUID", fixedNumber 0),
    ("HOSTTYPE", .ofText "x86_64"), ("IFS", .ofText " \t\n"),
    ("MACHTYPE", .ofText "x86_64-pc-linux-gnu"),
    ("OLDPWD", { Variable.plain .unset with isExported := true }), ("OPTERR", .ofText "1"),
    ("OPTIND", { Variable.ofText "1" with isInteger := true }), ("OSTYPE", .ofText "linux-gnu"),
    ("PATH", .ofText "/usr/local/sbin:/usr/local/bin:/usr/sbin:/usr/bin:/sbin:/bin"),
    ("PPID", fixedNumber (processNumber - 1)),
    ("PS4", .ofText "+ "), ("PWD", exportedText (Places.shown world.here)),
    ("SHELL", .ofText "/bin/bash"), ("SHLVL", exportedText "0"), ("TERM", .ofText "dumb"),
    ("UID", fixedNumber 0), ("_", .ofText (Lookup.toolFolder ++ "/bash"))]

/-- Some variables with others put in their place. -/
def overlaid (bindings others : List (String × Variable)) : List (String × Variable) :=
  others.foldl (fun bindings (name, held) => replaced name held bindings) bindings

/-- The variables there are in the beginning, with those that a script sees from outside. -/
def firstVariables (world : World) : List (String × Variable) :=
  overlaid (ownVariables world)
    [("HOME", exportedText "/root"), ("LC_ALL", exportedText "C"),
      ("PATH", exportedText Lookup.toolFolder), ("SHLVL", exportedText "1")]

/-- A script before its first command. -/
def opened (world : World) : Session where
  world := world
  frames := [{ ofFunction := false, bindings := firstVariables world }]
  functions := []
  arguments := []
  options := firstOptions
  descriptors := [(0, 0), (1, 1), (2, 2)]
  handles :=
    [(0, { target := .nothing, place := 0, appends := false, reads := true, writes := false }),
      (1, { target := .output, place := 0, appends := true, reads := false, writes := true }),
      (2, { target := .complaint, place := 0, appends := true, reads := false, writes := true })]
  nextHandle := 3
  output := []
  complaint := []
  status := 0
  statuses := []
  substituted := none
  asking := false
  calls := []
  isForked := false
  lists := 0
  loops := 0
  depth := 0
  traps := []
  outerTraps := []
  answering := false
  pending := []
  name := scriptName
  given := []
  file := some scriptName
  commandName := ""
  line := 1
  processes := 0
  lastProcess := none
  jobs := []
  aliases := []
  texts := 0
  random := 42
  optionPlace := 0
  folders := []
  mask := 0o22
  here := Places.shown world.here

/-- The number of scripts inside each other, one more. -/
def deeper (level : String) : String :=
  toString (((integer? level.toList).getD 0).toNat + 1)

/-- A script that is started by another one, before its first command. -/
def started (name : String) (file : Option String) (arguments options : List String)
    (outer : Session) : Session :=
  let start := opened outer.world
  let seen := outer.visible.filter fun (_, held) => held.isExported
  let bindings := overlaid (ownVariables outer.world) seen
  let level := ((bindings.lookup "SHLVL").bind Variable.text?).getD ""
  let ignored := outer.traps.filter (·.2 = "")
  { start with
    traps := ignored
    frames := [{ ofFunction := false
                 bindings := replaced "SHLVL" (exportedText (deeper level)) bindings }]
    functions := (outer.functions.filter fun (_, function) => function.isExported).map
      fun (name, function) => (name, { function with file := "environment" })
    arguments, given := arguments, name, file, options := options ++ firstOptions
    descriptors := outer.descriptors, handles := outer.handles, nextHandle := outer.nextHandle
    output := outer.output, complaint := outer.complaint, processes := outer.processes
    mask := outer.mask, here := outer.here }

/-- With nothing that scripts which are run as processes see. -/
def withoutExports (session : Session) : Session :=
  let hidden (frame : Frame) : Frame := { frame with
    bindings := frame.bindings.map fun (name, held) => (name, { held with isExported := false }) }
  { session with
    frames := session.frames.map hidden
    functions := session.functions.map fun (name, function) =>
      (name, { function with isExported := false }) }

end Session

end FolderBackup.Shell
