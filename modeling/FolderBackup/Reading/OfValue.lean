import FolderBackup.Reading.Record

/-! Reading typed things from values.

Tags are ignored, except that a variant may be written as a tag. Null stands for an empty
sequence, mapping or record. -/
namespace FolderBackup
open Yaml

namespace Reading

/-- Another kind of value is there. -/
def mistyped {α : Type} (value : Value) (expected : String) : Except Mismatch α :=
  .error (.mistyped (Found.ofValue value) expected)

def text (expected : String) (value : Value) : Except Mismatch String :=
  match value.untagged with
  | .text s => .ok s
  | other => mistyped other expected

def natural (bound : Nat) (expected : String) (value : Value) : Except Mismatch Nat :=
  match value.untagged with
  | .number (.integer n) =>
    if 0 ≤ n ∧ n < bound then .ok n.toNat
    else .error (.disallowed (.number (.integer n)) expected)
  | other => mistyped other expected

def optional (value : Value) : Except Mismatch (Option Value) :=
  match value with
  | .null => .ok none
  | value => .ok (some value)

def items (value : Value) : Except Mismatch (List Value) :=
  match value.untagged with
  | .null => .ok []
  | .sequence items => .ok items
  | other => mistyped other "a sequence"

def entries (expected : String) (value : Value) : Except Mismatch Entries :=
  match value.untagged with
  | .null => .ok []
  | .mapping entries => .ok entries
  | other => mistyped other expected

end Reading

instance : Source Value Mismatch where
  reject _ mismatch := mismatch
  text := Reading.text
  natural := Reading.natural
  optional := Reading.optional
  items := Reading.items
  entries := Reading.entries

namespace Reading

def boolean (value : Value) : Except Mismatch Bool :=
  match value.untagged with
  | .boolean b => .ok b
  | other => mistyped other "a boolean"

/-- The entries of a mapping as they stand. -/
def mapping (value : Value) : Except Mismatch Entries :=
  entries "a YAML mapping" value

/-- One of the named variants: its name as a text or as a tag of nothing. -/
def variant {α : Type} (variants : List (String × α)) (value : Value) : Except Mismatch α :=
  match value with
  | .text name => named name
  | .tagged name content => do
    let variant ← named name
    match content with
    | .null => .ok variant
    | other => mistyped other "unit"
  | other => mistyped other "a Value::Tagged enum"
where
  named (name : String) : Except Mismatch α :=
    match variants.find? (·.1 == name) with
    | some (_, variant) => .ok variant
    | none => .error (.unknownVariant name (variants.map Prod.fst))

mutual

/-- Whether a tag stands anywhere in a value. -/
def hasTag : Value → Bool
  | .tagged _ _ => true
  | .sequence items => itemsHaveTag items
  | .mapping entries => entriesHaveTag entries
  | _ => false

def itemsHaveTag : List Value → Bool
  | [] => false
  | value :: rest => hasTag value || itemsHaveTag rest

def entriesHaveTag : List (Value × Value) → Bool
  | [] => false
  | (key, value) :: rest => hasTag key || hasTag value || entriesHaveTag rest

end

/-- The natural number that a text is the decimal form of: digits, perhaps after a plus. -/
def numeral (bound : Nat) (s : String) : Except NumeralFault Nat :=
  match s.toList with
  | [] => .error .empty
  | c :: rest =>
    let digits := if c = '+' then rest else c :: rest
    if digits.isEmpty || !digits.all Char.isDigit then .error (fault digits)
    else
      let n := digits.foldl (fun n c => 10 * n + (c.toNat - '0'.toNat)) 0
      if n < bound then .ok n else .error .tooLarge
where
  /-- A number gets too large at a digit, or meets a character that is none, whichever is first. -/
  fault (digits : List Char) : NumeralFault :=
    let run := digits.takeWhile Char.isDigit
    if run.foldl (fun n c => 10 * n + (c.toNat - '0'.toNat)) 0 < bound then .digit else .tooLarge

/-- A natural number, or the text of one. -/
def naturalOrText (bound : Nat) (expected : String) (value : Value) : Except Mismatch Nat :=
  if hasTag value then .error .tagRefused
  else match natural bound expected value with
    | .ok n => .ok n
    | .error first => match text "a string" value with
      | .error second => .error (.neither first second)
      | .ok s => match numeral bound s with
        | .ok n => .ok n
        | .error fault => .error (.neither first (.numeral fault))

end Reading

end FolderBackup
