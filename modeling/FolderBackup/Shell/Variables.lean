import FolderBackup.Shell.Clock
import FolderBackup.Shell.Reference

/-! The values of variables.

A variable holds a text, texts under numbers or texts under names. Some variables tell about the
session itself and are made up when they are looked at. -/
namespace FolderBackup.Shell

/-! ### Tables -/

/-- The order in which a table lists its names: by a number made of the bytes of each, the latest
of those with the same number first. -/
def bucket (name : String) : Nat :=
  let hash := name.toList.foldl (fun (hash : UInt32) c => (hash * 16777619) ^^^ c.toNat.toUInt32)
    2166136261
  hash.toNat % 1024

namespace Value

/-- The keys and texts of a value, in order. -/
def entries : Value → List (String × String)
  | .unset => []
  | .text single => [("0", single)]
  | .list entries => entries.map fun (index, content) => (toString index, content)
  | .table entries =>
    (entries.reverse.map fun entry => (bucket entry.1, entry)).mergeSort
      (fun a b => decide (a.1 ≤ b.1)) |>.map Prod.snd

/-- The texts of a value, in order. -/
def texts (value : Value) : List String := value.entries.map Prod.snd

/-- Texts under the numbers from zero on. -/
def ofTexts (texts : List String) : Value :=
  .list (texts.zipIdx.map fun (content, index) => (index, content))

/-- A list with a text put under a number. -/
def insertAt (index : Nat) (text : String) : List (Nat × String) → List (Nat × String)
  | [] => [(index, text)]
  | (other, old) :: rest =>
    if index < other then (index, text) :: (other, old) :: rest
    else if index = other then (index, text) :: rest
    else (other, old) :: insertAt index text rest

/-- The largest number of a list, plus one. -/
def listEnd (entries : List (Nat × String)) : Nat :=
  ((entries.getLast?).map fun entry => entry.1 + 1).getD 0

/-- A value as a list. -/
def asList : Value → List (Nat × String)
  | .unset => []
  | .text single => [(0, single)]
  | .list entries => entries
  | .table _ => []

/-- The value with a text put under a number. -/
def putIndex (index : Nat) (text : String) (value : Value) : Value :=
  .list (insertAt index text value.asList)

/-- The value with a text put under a name. -/
def putName (name text : String) (value : Value) : Value :=
  match value with
  | .table entries =>
    if entries.any (·.1 == name) then
      .table (entries.map fun entry => if entry.1 = name then (name, text) else entry)
    else .table (entries ++ [(name, text)])
  | _ => .table [(name, text)]

/-- The value with a text put in its first place. -/
def putText (text : String) (value : Value) : Value :=
  match value with
  | .list entries => .list (insertAt 0 text entries)
  | .table _ => value.putName "0" text
  | _ => .text text

/-- The value without what is under a key. -/
def remove (key : String) (value : Value) : Value :=
  match value with
  | .list entries => .list (entries.filter fun entry => toString entry.1 ≠ key)
  | .table entries => .table (entries.filter fun entry => entry.1 ≠ key)
  | _ => .unset

def isTable : Value → Bool
  | .table _ => true
  | _ => false

def isList : Value → Bool
  | .list _ => true
  | _ => false

end Value

/-- A text with its letters written as wanted. -/
def LetterCase.apply (letters : LetterCase) (text : String) : String :=
  match letters with
  | .asGiven => text
  | .lower => String.ofList (text.toList.map Char.toLower)
  | .upper => String.ofList (text.toList.map Char.toUpper)
  | .capital => match text.toList with
    | [] => ""
    | c :: rest => String.ofList (c.toUpper :: rest.map Char.toLower)

namespace Session

/-! ### Variables about the session -/

/-- The number of the process of the script. -/
def processNumber : Nat := 4242

/-- The number of the process that is being run. -/
def currentProcess (session : Session) : Nat :=
  if session.depth = 0 then processNumber else processNumber + session.processes + 1

/-- The options that are shown by letters, with their letters. -/
def letterOptions : List (Char × String) :=
  [('a', "allexport"), ('b', "notify"), ('e', "errexit"), ('f', "noglob"), ('h', "hashall"),
    ('k', "keyword"), ('m', "monitor"), ('n', "noexec"), ('p', "privileged"), ('t', "onecmd"),
    ('u', "nounset"), ('v', "verbose"), ('x', "xtrace"), ('B', "braceexpand"),
    ('C', "noclobber"), ('E', "errtrace"), ('H', "histexpand"), ('P', "physical"),
    ('T', "functrace")]

/-- Where a script comes from, as letters show it: from an argument or from the input. -/
def originLetters : List (Char × String) := [('c', "argument"), ('s', "input")]

/-- The options by their letters. -/
def letters (session : Session) : String :=
  String.ofList (((letterOptions ++ originLetters).filter fun entry =>
    session.isOn entry.2).map Prod.fst)

/-- The names of the options that are turned by `set`. -/
def setOptions : List String :=
  ["allexport", "braceexpand", "emacs", "errexit", "errtrace", "functrace", "hashall",
    "histexpand", "history", "ignoreeof", "interactive-comments", "keyword", "monitor",
    "noclobber", "noexec", "noglob", "nolog", "notify", "nounset", "onecmd", "physical",
    "pipefail", "posix", "privileged", "verbose", "vi", "xtrace"]

/-- The names of the options that are turned by `shopt`. -/
def shellOptions : List String :=
  ["autocd", "assoc_expand_once", "cdable_vars", "cdspell", "checkhash", "checkjobs",
    "checkwinsize", "cmdhist", "compat31", "compat32", "compat40", "compat41", "compat42",
    "compat43", "compat44", "complete_fullquote", "direxpand", "dirspell", "dotglob", "execfail",
    "expand_aliases", "extdebug", "extglob", "extquote", "failglob", "force_fignore",
    "globasciiranges", "globskipdots", "globstar", "gnu_errfmt", "histappend", "histreedit",
    "histverify", "hostcomplete", "huponexit", "inherit_errexit", "interactive_comments",
    "lastpipe", "lithist", "localvar_inherit", "localvar_unset", "login_shell", "mailwarn",
    "no_empty_cmd_completion", "nocaseglob", "nocasematch", "noexpand_translation", "nullglob",
    "patsub_replacement", "progcomp", "progcomp_alias", "promptvars", "restricted_shell",
    "shift_verbose", "sourcepath", "varredir_close", "xpg_echo"]

/-- The options that are on in the beginning. -/
def firstOptions : List String :=
  ["braceexpand", "hashall", "interactive-comments", "checkwinsize", "cmdhist",
    "complete_fullquote", "extquote", "force_fignore", "globasciiranges", "globskipdots",
    "hostcomplete", "interactive_comments", "patsub_replacement", "progcomp", "promptvars",
    "sourcepath"]

/-- The number after a number that is made up. -/
def nextRandom (seed : Nat) : Nat :=
  let last := if seed = 0 then 123459876 else seed
  let high := last / 127773
  let low := last - 127773 * high
  let next : Int := 16807 * low - 2836 * high
  (if next < 0 then next + 0x7fffffff else next).toNat

/-- The value of a variable that tells about the session. -/
def made? (session : Session) (name : String) : Option Value :=
  match name with
  | "LINENO" => some (.text (toString session.line))
  | "SECONDS" => some (.text "0")
  | "EPOCHSECONDS" => some (.text (toString Clock.told.seconds))
  | "EPOCHREALTIME" => some (.text (toString Clock.told.seconds ++ ".000000"))
  | "RANDOM" =>
    let next := nextRandom session.random
    some (.text (toString (((next / 65536) ^^^ (next % 65536)) % 32768)))
  | "SRANDOM" => some (.text (toString (nextRandom session.random)))
  | "HISTCMD" => some (.text "0")
  | "COMP_WORDBREAKS" => some (.text " \t\n\"'@><=;|&(:")
  | "BASHPID" => some (.text (toString session.currentProcess))
  | "BASH_ARGV0" => some (.text session.name)
  | "BASH_SUBSHELL" => some (.text (toString session.depth))
  | "BASH_ALIASES" => some (.table session.aliases)
  | "PIPESTATUS" =>
    if session.statuses.isEmpty then none else some (.ofTexts (session.statuses.map toString))
  | "FUNCNAME" =>
    if session.inFunction then
      some (.ofTexts (session.calls.map (·.name) ++ (session.file.map fun _ => "main").toList))
    else none
  | "BASH_LINENO" =>
    some (.ofTexts (session.calls.map (toString ·.line) ++ (session.file.map fun _ => "0").toList))
  | "BASH_ARGC" =>
    let calls := if session.isOn "extdebug" then session.calls else []
    if session.inFunction && calls.isEmpty then some (.list [])
    else some (.ofTexts ((calls.map (·.arguments.length) ++ [session.given.length]).map toString))
  | "BASH_ARGV" =>
    let calls := if session.isOn "extdebug" then session.calls else []
    some (.ofTexts ((calls.map (·.arguments) ++ [session.given]).flatMap List.reverse))
  | "BASH_SOURCE" => some (.ofTexts session.files)
  | "DIRSTACK" => some (.ofTexts (session.here :: session.folders))
  | "SHELLOPTS" => some (.text (String.intercalate ":" (setOptions.filter session.isOn)))
  | "BASHOPTS" => some (.text (String.intercalate ":" (shellOptions.filter session.isOn)))
  | "GROUPS" => some (.ofTexts ["0"])
  | _ => none

/-- The variables that tell about the session whatever they are given. -/
def unmoved : List String :=
  ["LINENO", "DIRSTACK", "EPOCHSECONDS", "EPOCHREALTIME", "HISTCMD", "BASHPID", "BASH_ALIASES", "BASH_ARGV0",
    "FUNCNAME", "BASH_ARGC", "BASH_ARGV", "BASH_LINENO", "BASH_SOURCE", "GROUPS", "PIPESTATUS",
    "RANDOM", "SRANDOM"]

/-- The variables that a function has no own one of. -/
def ungiven : List String :=
  ["BASH_ARGC", "BASH_ARGV", "BASH_LINENO", "BASH_SOURCE", "FUNCNAME", "GROUPS"]

/-- A variable with the value that it has when it is looked at. -/
def filled (session : Session) (name : String) (held : Variable) : Variable :=
  if held.isMade then
    match session.made? name with
    | some value => { held with value, isGiven := true }
    | none => held
  else held

/-- A variable by its name, with the value that it has when it is looked at. -/
def looked? (session : Session) (name : String) : Option Variable :=
  (session.held? name).map (session.filled name)

/-- The variable that a name leads to, with the value that it has when it is looked at. -/
def seen? (session : Session) (name : String) : Option Variable :=
  match session.lead name with
  | .variable other => session.looked? other
  | .outermost other => session.global? other
  | _ => none

/-- The value of a variable; none if there is none. -/
def value? (session : Session) (name : String) : Option Value :=
  match session.seen? name with
  | some held => if held.value = .unset || held.refers then none else some held.value
  | none => none

end Session

namespace Action

/-- Warns that names lead around in a circle. -/
def warnOfCircle (name : String) : Action Unit :=
  complain ("warning: " ++ name ++ ": circular name reference")

/-- The value of a variable; none if there is none. Looking at a random number makes another. -/
def value? (name : String) : Action (Option Value) := do
  let session ← get
  if (session.lead name).isCircle then warnOfCircle name
  let session ← get
  let name := if (session.lead name).isCircle then name else session.resolved name
  if (session.held? name).any (·.isMade) && (name == "RANDOM" || name == "SRANDOM") then
    set { session with random := Session.nextRandom session.random }
  return session.value? name

/-- What else changes when a variable is given a text. -/
def assigned (name text : String) : Action Unit := do
  if name = "RANDOM" then
    modify fun session => { session with random := ((integer? text.toList).getD 0).toNat }
  else if name = "OPTIND" then modify fun session => { session with optionPlace := 0 }
  else if name = "BASH_ARGV0" then modify fun session => { session with name := text }

/-- Adds the texts of a table to those that take the place of words. -/
def addAliases (value : Value) : Action Unit :=
  modify fun session =>
    let isKept (entry : String × String) : Bool := (value.entries.lookup entry.1).isNone
    { session with aliases := value.entries ++ session.aliases.filter isKept }

/-- Puts texts in the places of folders that were put aside, by the numbers that those are listed
under. -/
def replaceFolders (value : Value) : Action Unit :=
  modify fun session =>
    let new := session.folders.zipIdx.map fun (folder, index) =>
      (value.asList.lookup (index + 1)).getD folder
    { session with folders := new }

/-- Changes the value of a variable, unless it may not be changed; whether it was. -/
def changeAt (name : String) (isOutermost : Bool) (f : Variable → Value) : Action Bool := do
  let session ← get
  let held? := if isOutermost then session.global? name else session.held? name
  let held := held?.getD (.plain .unset)
  let staysMade := held.isMade && Session.unmoved.contains name
  let new := { held with
    value := if staysMade then held.value else f held
    isExported := held.isExported || session.isOn "allexport"
    isGiven := held.isGiven || !staysMade, isMade := staysMade }
  let text := (Variable.text? { held with value := f held }).getD ""
  if held.isReadonly then
    complain (name ++ ": readonly variable")
    return false
  else if held.refers && !isOutermost && !Lead.isTarget text then
    complain ("\x60" ++ text ++ "': not a valid identifier")
    return false
  else
    set (if isOutermost then session.putGlobal name new else session.putVariable name new)
    assigned name text
    if held.isMade && name = "BASH_ALIASES" then addAliases (f held)
    if held.isMade && name = "DIRSTACK" then replaceFolders (f held)
    return true

/-- Changes the value of what a name leads to, unless it may not be changed; whether it was. -/
def change (name : String) (f : Variable → Value) : Action Bool := do
  match (← get).lead name with
  | .variable name => changeAt name false f
  | .element name _ => changeAt name false f
  | .outermost other =>
    warnOfCircle name
    warnOfCircle name
    changeAt other true f
  | .nowhere =>
    warnOfCircle name
    return false

/-- Gives a variable a text; whether it could be given. -/
def assign (name text : String) : Action Bool :=
  change name fun held => held.value.putText (held.letters.apply text)

/-- Gives the variable of a loop a text. One that names others names another one from then on. -/
def assignLoop (name text : String) : Action Bool := do
  if ((← get).held? name).any (·.refers) then
    changeAt name false fun held => held.value.putText text
  else assign name text

/-- Gives a place of a list a text. -/
def assignIndex (name : String) (index : Nat) (text : String) : Action Bool :=
  change name fun held => held.value.putIndex index (held.letters.apply text)

/-- Gives a place of a table a text. -/
def assignName (name key text : String) : Action Bool :=
  change name fun held => held.value.putName key (held.letters.apply text)

end Action

end FolderBackup.Shell
