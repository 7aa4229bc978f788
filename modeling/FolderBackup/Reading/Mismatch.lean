import FolderBackup.Decimal.Shortest
import FolderBackup.Text.Quoted
import FolderBackup.Yaml.Value

/-! What keeps a tree from being read as a typed thing.

A mismatch names what was found and what was expected in its place, or the field of a record
that is missing, unknown or there twice. -/
namespace FolderBackup

/-- What was found where something else was expected. -/
inductive Found where
  | null
  | boolean (value : Bool)
  | number (value : Yaml.Number)
  | wide (value : Int)
  | text (value : String)
  | sequence
  | mapping
  | tagged
  deriving DecidableEq, Repr

namespace Found

def description : Found → String
  | .null => "unit value"
  | .boolean value => "boolean \x60" ++ (if value then "true" else "false") ++ "\x60"
  | .number (.integer value) => "integer \x60" ++ toString value ++ "\x60"
  | .number (.decimal value) => "floating point \x60" ++ Decimal.positional value ++ "\x60"
  | .wide value =>
    "integer \x60" ++ toString value ++ "\x60 as " ++ (if 0 ≤ value then "u128" else "i128")
  | .text value => "string " ++ Text.quoted value
  | .sequence => "sequence"
  | .mapping => "map"
  | .tagged => "enum"

/-- What a value is found to be. -/
def ofValue : Yaml.Value → Found
  | .null => .null
  | .boolean value => .boolean value
  | .number value => .number value
  | .text value => .text value
  | .sequence _ => .sequence
  | .mapping _ => .mapping
  | .tagged _ _ => .tagged

end Found

/-- Why a text is not the decimal form of a natural number. -/
inductive NumeralFault where
  | empty
  | digit
  | tooLarge
  deriving DecidableEq, Repr

def NumeralFault.message : NumeralFault → String
  | .empty => "cannot parse integer from empty string"
  | .digit => "invalid digit found in string"
  | .tooLarge => "number too large to fit in target type"

inductive Mismatch where
  /-- Another kind of thing is there. -/
  | mistyped (found : Found) (expected : String)
  /-- The right kind of thing is there with a value that is not allowed. -/
  | disallowed (found : Found) (expected : String)
  | missingField (name : String)
  | unknownField (name : String) (known : List String)
  | duplicateField (name : String)
  | unknownVariant (name : String) (known : List String)
  | duplicateKey (key : Yaml.Value)
  | numeral (fault : NumeralFault)
  | tagRefused
  /-- Two ways of reading were tried. -/
  | neither (first second : Mismatch)
  deriving Repr

namespace Mismatch

/-- A name between backticks. -/
def named (name : String) : String := "\x60" ++ name ++ "\x60"

/-- What could have been there instead; `none` says that nothing could. -/
def alternatives (none : String) : List String → String
  | [] => none
  | [name] => "expected " ++ named name
  | [first, second] => "expected " ++ named first ++ " or " ++ named second
  | names => "expected one of " ++ String.intercalate ", " (names.map named)

/-- How a key that is there twice is called. -/
def keyText : Yaml.Value → String
  | .null => "with null key"
  | .boolean value => "with key \x60" ++ (if value then "true" else "false") ++ "\x60"
  | .number (.integer value) => "with key " ++ toString value
  | .number (.decimal value) => "with key " ++ Decimal.compact value
  | .text value => "with key " ++ Text.quoted value
  | _ => "in YAML map"

def message : Mismatch → String
  | .mistyped found expected => "invalid type: " ++ found.description ++ ", expected " ++ expected
  | .disallowed found expected =>
    "invalid value: " ++ found.description ++ ", expected " ++ expected
  | .missingField name => "missing field " ++ named name
  | .unknownField name known =>
    "unknown field " ++ named name ++ ", " ++ alternatives "there are no fields" known
  | .duplicateField name => "duplicate field " ++ named name
  | .unknownVariant name known =>
    "unknown variant " ++ named name ++ ", " ++ alternatives "there are no variants" known
  | .duplicateKey key => "duplicate entry " ++ keyText key
  | .numeral fault => fault.message
  | .tagRefused => "untagged and internally tagged enums do not support enum input"
  | .neither first second =>
    "PickFirst could not deserialize any variant:\n  First: " ++ first.message ++
      "\n  Second: " ++ second.message

end Mismatch

end FolderBackup
