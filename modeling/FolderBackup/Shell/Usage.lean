import FolderBackup.Shell.Session

/-! How commands of the shell are used.

A command of the shell takes options, letters after a hyphen, and other arguments after them. Where it
is used wrongly, it tells how it is used. -/
namespace FolderBackup.Shell.Usage

/-- How each command is used. -/
def table : List (String × String) :=
  [(".", ". filename [arguments]"),
    ("alias", "alias [-p] [name[=value] ... ]"),
    ("bg", "bg [job_spec ...]"),
    ("break", "break [n]"),
    ("builtin", "builtin [shell-builtin [arg ...]]"),
    ("caller", "caller [expr]"),
    ("cd", "cd [-L|[-P [-e]] [-@]] [dir]"),
    ("command", "command [-pVv] command [arg ...]"),
    ("compgen", "compgen [-abcdefgjksuv] [-o option] [-A action] [-G globpat] [-W wordlist] " ++
      "[-F function] [-C command] [-X filterpat] [-P prefix] [-S suffix] [word]"),
    ("complete", "complete [-abcdefgjksuv] [-pr] [-DEI] [-o option] [-A action] [-G globpat] " ++
      "[-W wordlist] [-F function] [-C command] [-X filterpat] [-P prefix] [-S suffix] " ++
      "[name ...]"),
    ("continue", "continue [n]"),
    ("declare", "declare [-aAfFgiIlnrtux] [name[=value] ...] or declare -p [-aAfFilnrtux] " ++
      "[name ...]"),
    ("dirs", "dirs [-clpv] [+N] [-N]"),
    ("disown", "disown [-h] [-ar] [jobspec ... | pid ...]"),
    ("enable", "enable [-a] [-dnps] [-f filename] [name ...]"),
    ("eval", "eval [arg ...]"),
    ("exec", "exec [-cl] [-a name] [command [argument ...]] [redirection ...]"),
    ("exit", "exit [n]"),
    ("export", "export [-fn] [name[=value] ...] or export -p"),
    ("fc", "fc [-e ename] [-lnr] [first] [last] or fc -s [pat=rep] [command]"),
    ("fg", "fg [job_spec]"),
    ("getopts", "getopts optstring name [arg ...]"),
    ("hash", "hash [-lr] [-p pathname] [-dt] [name ...]"),
    ("help", "help [-dms] [pattern ...]"),
    ("history", "history [-c] [-d offset] [n] or history -anrw [filename] or " ++
      "history -ps arg [arg...]"),
    ("jobs", "jobs [-lnprs] [jobspec ...] or jobs -x command [args]"),
    ("kill", "kill [-s sigspec | -n signum | -sigspec] pid | jobspec ... or kill -l [sigspec]"),
    ("let", "let arg [arg ...]"),
    ("local", "local [option] name[=value] ..."),
    ("logout", "logout [n]"),
    ("mapfile", "mapfile [-d delim] [-n count] [-O origin] [-s count] [-t] [-u fd] " ++
      "[-C callback] [-c quantum] [array]"),
    ("popd", "popd [-n] [+N | -N]"),
    ("printf", "printf [-v var] format [arguments]"),
    ("pushd", "pushd [-n] [+N | -N | dir]"),
    ("pwd", "pwd [-LP]"),
    ("read", "read [-ers] [-a array] [-d delim] [-i text] [-n nchars] [-N nchars] " ++
      "[-p prompt] [-t timeout] [-u fd] [name ...]"),
    ("readarray", "readarray [-d delim] [-n count] [-O origin] [-s count] [-t] [-u fd] " ++
      "[-C callback] [-c quantum] [array]"),
    ("readonly", "readonly [-aAf] [name[=value] ...] or readonly -p"),
    ("return", "return [n]"),
    ("set", "set [-abefhkmnptuvxBCEHPT] [-o option-name] [--] [-] [arg ...]"),
    ("shift", "shift [n]"),
    ("shopt", "shopt [-pqsu] [-o] [optname ...]"),
    ("source", "source filename [arguments]"),
    ("suspend", "suspend [-f]"),
    ("times", "times"),
    ("trap", "trap [-lp] [[arg] signal_spec ...]"),
    ("type", "type [-afptP] name [name ...]"),
    ("typeset", "typeset [-aAfFgiIlnrtux] name[=value] ... or typeset -p [-aAfFilnrtux] " ++
      "[name ...]"),
    ("ulimit", "ulimit [-SHabcdefiklmnpqrstuvxPRT] [limit]"),
    ("umask", "umask [-p] [-S] [mode]"),
    ("unalias", "unalias [-a] name [name ...]"),
    ("unset", "unset [-f] [-v] [-n] [name ...]"),
    ("wait", "wait [-fn] [-p var] [id ...]")]

/-- Tells how a command is used. -/
def tell (command : String) : Action Unit :=
  modify (Session.complainText
    (command ++ ": usage: " ++ (table.lookup command).getD command ++ "\n"))

/-- Complains about an option that a command does not have; its status. -/
def invalidOption (command option : String) : Action Nat := do
  Action.complainAs command (option ++ ": invalid option")
  tell command
  return 2

/-- A number is needed where there is none; the run ends. -/
def needsNumber {α : Type} (command text : String) : Action α := do
  Action.complainAs command (text ++ ": numeric argument required")
  throw (.exit ((← get).status ||| 128))

/-- There are more arguments than a command takes; the rest of the line is given up. -/
def tooMany {α : Type} (command : String) : Action α := do
  Action.complainAs command "too many arguments"
  Action.setStatus 1
  throw .discarded

/-- The options at the start of some arguments, each with its own argument if it takes one, and the
other arguments. -/
structure Options where
  options : List (Char × String)
  rest : List String

namespace Options

def has (found : Options) (letter : Char) : Bool := found.options.any (·.1 == letter)

/-- The argument of the last option of its letter. -/
def value? (found : Options) (letter : Char) : Option String :=
  found.options.reverse.lookup letter

end Options

/-- The options at the start of some arguments: letters of `plain` stand alone, those of `valued` take
an argument. None, with a complaint, if there are others. -/
def options? (command : String) (plain valued : List Char) :
    Nat → List String → Action (Option Options)
  | 0, arguments => return some { options := [], rest := arguments }
  | _, [] => return some { options := [], rest := [] }
  | fuel + 1, argument :: rest =>
    match argument.toList with
    | ['-', '-'] => return some { options := [], rest }
    | '-' :: c :: letters => go fuel (c :: letters) rest
    | _ => return some { options := [], rest := argument :: rest }
where
  go (fuel : Nat) : List Char → List String → Action (Option Options)
    | [], rest => options? command plain valued fuel rest
    | c :: letters, rest => do
      if plain.contains c then
        return (← go fuel letters rest).map fun found =>
          { found with options := (c, "") :: found.options }
      else if valued.contains c then
        match letters, rest with
        | [], [] =>
          Action.complainAs command ("-" ++ c.toString ++ ": option requires an argument")
          tell command
          return none
        | [], value :: rest =>
          return (← options? command plain valued fuel rest).map fun found =>
            { found with options := (c, value) :: found.options }
        | letters, rest =>
          return (← options? command plain valued fuel rest).map fun found =>
            { found with options := (c, String.ofList letters) :: found.options }
      else
        let _ ← invalidOption command ("-" ++ c.toString)
        return none

/-- A command with options; its status is two if they are wrong. -/
def taking (command plain valued : String) (arguments : List String)
    (run : Options → Action Nat) : Action Nat := do
  match ← options? command plain.toList valued.toList (arguments.length + 1) arguments with
  | some found => run found
  | none => return 2

end FolderBackup.Shell.Usage
