import FolderBackup.Reading.OfValue
import FolderBackup.Settings.Violation

/-! Options.

Options are settings read from the mapping of an operation's configuration. They are first
read by type, then checked against their rules, and can be written as a mapping again. -/
namespace FolderBackup
open Yaml

/-- A type of options. -/
class Options (α : Type) where
  read : Value → Except Mismatch α
  /-- The rules broken, by the fields' names in order. -/
  violations : α → List Violation
  write : α → Entries

/-- Why a mapping does not hold some options. -/
inductive Options.Fault where
  | mismatch (found : Mismatch)
  | violations (found : List Violation)

def Options.Fault.message : Options.Fault → String
  | .mismatch found => found.message
  | .violations found => Violation.messages found

namespace Options
variable {α : Type} [Options α]

/-- The options that a mapping holds. -/
def ofEntries (entries : Entries) : Except Fault α :=
  match read (.mapping entries) with
  | .error found => .error (.mismatch found)
  | .ok options => match violations options with
    | [] => .ok options
    | found => .error (.violations found)

/-- An entry of written options. -/
def entry (name : String) (value : Value) : Value × Value :=
  (.text name, value)

/-- The entry of an option that may be missing. -/
def entry? (name : String) (value : Option Value) : Entries :=
  (value.map (entry name)).toList

def natural (n : Nat) : Value := .number (.integer n)

end Options

/-- The options of an operation that takes none. -/
structure NoOptions where
  deriving DecidableEq, Repr

namespace NoOptions

def shape : Shape Value Mismatch NoOptions :=
  pure {}

instance : Options NoOptions where
  read := shape.read "struct EmptyConfig"
  violations _ := []
  write _ := []

end NoOptions

end FolderBackup
