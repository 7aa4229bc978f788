import FolderBackup.Text.Quoted

/-! Broken rules.

Settings that can be read may still break a rule. A violation names the setting by its path
and the rule that it breaks. All violations of some settings are reported at once. -/
namespace FolderBackup

/-- A part of the path to a setting. -/
inductive Violation.Segment where
  | field (name : String)
  | index (position : Nat)
  deriving DecidableEq, Repr

/-- What a setting fails to satisfy. -/
inductive Violation.Rule where
  /-- A number must be at least the least one and at most the greatest one. -/
  | range (least : Nat) (greatest : Option Nat) (value : Nat)
  /-- A text must hold a character. -/
  | emptyText
  /-- A list must hold an item. -/
  | emptyList
  /-- A text must hold a character that is not blank. -/
  | blank
  /-- A name must be a file name; the suggestion is one. -/
  | fileName (suggestion : String)
  /-- Connections must be complete; each broken one has the fields that are empty. -/
  | connections (broken : List (String × List String))
  /-- A rule that is known by its code alone. -/
  | other (code : String)
  deriving DecidableEq, Repr

/-- A rule that a setting breaks, and the path to the setting. -/
structure Violation where
  path : List Violation.Segment
  rule : Violation.Rule
  deriving DecidableEq, Repr

namespace Violation

def Segment.text : Segment → String
  | .field name => name
  | .index position => "[" ++ toString position ++ "]"

/-- The path with a dot before each field but the first. -/
def pathText : List Segment → String
  | [] => ""
  | segment :: rest => segment.text ++ String.join (rest.map fun
    | .field name => "." ++ name
    | segment => segment.text)

namespace Rule

def code : Rule → String
  | .range _ _ _ => "range"
  | .emptyText => "length"
  | .emptyList => "length"
  | .blank => "Blank"
  | .fileName _ => "InvalidFileName"
  | .connections _ => "InvalidConnection"
  | .other code => code

/-- A code with the parameters of the rule, sorted by name. -/
def coded (code : String) (parameters : List (String × String)) : String :=
  let shown := parameters.map fun (name, value) => Text.quoted name ++ ": " ++ value
  "Validation error: " ++ code ++ " [\x7b" ++ String.intercalate ", " shown ++ "\x7d]"

def number (n : Nat) : String := "Number(" ++ toString n ++ ")"

/-- That a text holds no character. -/
def emptyTextMessage : String :=
  coded "length" [("min", number 1), ("value", "String(\"\")")]

def connectionMessage : String × List String → String
  | (name, fields) =>
    name ++ ": " ++ String.intercalate "\n" (fields.map fun field =>
      field ++ ": " ++ emptyTextMessage)

def message : Rule → String
  | .range least greatest value =>
    coded "range" ((greatest.map fun n => ("max", number n)).toList ++
      [("min", number least), ("value", number value)])
  | .emptyText => emptyTextMessage
  | .emptyList => coded "length" [("min", number 1), ("value", "Array []")]
  | .blank => "Must not be blank"
  | .fileName suggestion => "Invalid file name, try sanitizing like " ++ Text.quoted suggestion
  | .connections broken => String.intercalate "; " (broken.map connectionMessage)
  | .other code => coded code []

end Rule

def message (violation : Violation) : String :=
  pathText violation.path ++ ": " ++ violation.rule.message

/-- The violation of a rule by a field. -/
def ofField (name : String) (rule : Rule) : Violation :=
  { path := [.field name], rule }

/-- The violations as seen from further up. -/
def below (segments : List Segment) (violations : List Violation) : List Violation :=
  violations.map fun violation => { violation with path := segments ++ violation.path }

/-- The violation of a text that must not be empty. -/
def ofText (name : String) (text : String) : List Violation :=
  if text = "" then [ofField name .emptyText] else []

/-- The violation of a number that must be in a range. -/
def ofNumber (name : String) (least : Nat) (greatest : Option Nat) (value : Nat) :
    List Violation :=
  if least ≤ value ∧ greatest.all (value ≤ ·) then []
  else [ofField name (.range least greatest value)]

/-- The violation of a list that must not be empty. -/
def ofList {α : Type} (name : String) (items : List α) : List Violation :=
  if items.isEmpty then [ofField name .emptyList] else []

/-- All messages: a line for every setting at the top, with what is below it run together. -/
def messages : List Violation → String
  | [] => ""
  | [violation] => violation.message
  | violation :: next :: rest =>
    violation.message ++ (if violation.path.head? = next.path.head? then "" else "\n") ++
      messages (next :: rest)

end Violation

end FolderBackup
