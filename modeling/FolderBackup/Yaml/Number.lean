import FolderBackup.Decimal.Binary64

/-! Plain scalars.

A scalar written without quotes is null, a boolean, a number or a text, by its spelling
alone. Whole numbers may be written in hexadecimal, octal or binary; digits after a leading
zero are a text, and so is every number too large to hold. -/
namespace FolderBackup.Yaml

/-- A number of a document: a whole number that fits 64 bits, or one of double precision. -/
inductive Number where
  | integer (value : Int)
  | decimal (value : Decimal.Binary64)
  deriving DecidableEq, Repr

/-- What a plain scalar spells; `wide` is a whole number that needs up to 128 bits. -/
inductive Plain where
  | null
  | boolean (value : Bool)
  | number (value : Number)
  | wide (value : Int)
  | text
  deriving DecidableEq, Repr

namespace Plain

/-- The value of a digit, if it is one below the radix. -/
def digit? (radix : Nat) (c : Char) : Option Nat :=
  let value :=
    if '0' ≤ c ∧ c ≤ '9' then some (c.toNat - '0'.toNat)
    else if 'a' ≤ c ∧ c ≤ 'f' then some (c.toNat - 'a'.toNat + 10)
    else if 'A' ≤ c ∧ c ≤ 'F' then some (c.toNat - 'A'.toNat + 10)
    else none
  value.filter (· < radix)

/-- The value of a run of digits; none if it is empty or holds another character. -/
def digits? (radix : Nat) : List Char → Option Nat
  | [] => none
  | cs => cs.foldlM (fun n c => (digit? radix c).map (radix * n + ·)) 0

/-- Whether a text is digits after a leading zero, with perhaps a sign before them. -/
def isZeroPadded (chars : List Char) : Bool :=
  let unsigned := match chars with
    | '-' :: rest => rest
    | '+' :: rest => rest
    | rest => rest
  match unsigned with
  | '0' :: c :: rest => (c :: rest).all Char.isDigit
  | _ => false

/-- The value of a number without a sign. -/
def magnitude? (chars : List Char) : Option Nat :=
  match chars with
  | '0' :: 'x' :: rest => digits? 16 rest
  | '0' :: 'o' :: rest => digits? 8 rest
  | '0' :: 'b' :: rest => digits? 2 rest
  | _ => if isZeroPadded chars then none else digits? 10 chars

/-- The whole number that a text spells, however large. -/
def integer? : List Char → Option Int
  | '-' :: rest => (magnitude? rest).map fun n => -(n : Int)
  | '+' :: rest => (magnitude? rest).map fun n => (n : Int)
  | chars => (magnitude? chars).map fun n => (n : Int)

/-- The finite or infinite number that a text spells. -/
def decimal? (chars : List Char) : Option Decimal.Binary64 :=
  let unsigned := match chars with
    | '+' :: rest => if rest.head? = some '+' ∨ rest.head? = some '-' then none else some rest
    | rest => some rest
  match unsigned with
  | none => none
  | some unsigned =>
    if [".inf", ".Inf", ".INF"].contains (String.ofList unsigned) then some (.infinite false)
    else if ["-.inf", "-.Inf", "-.INF"].contains (String.ofList chars) then some (.infinite true)
    else if [".nan", ".NaN", ".NAN"].contains (String.ofList chars) then some .nan
    else match Decimal.read unsigned with
      | some (.finite negative mantissa exponent) => some (.finite negative mantissa exponent)
      | _ => none

def isNull (s : String) : Bool :=
  ["null", "Null", "NULL", "~"].contains s

def boolean? (s : String) : Option Bool :=
  if ["true", "True", "TRUE"].contains s then some true
  else if ["false", "False", "FALSE"].contains s then some false
  else none

/-- A whole number as what it needs to be held in; none if 128 bits are not enough. -/
def sized? (value : Int) : Option Plain :=
  let word : Int := UInt64.size
  if -(word / 2) ≤ value ∧ value < word then some (.number (.integer value))
  else if -(word * word / 2) ≤ value ∧ value < word * word then some (.wide value)
  else none

def whole? (s : String) : Option Plain :=
  (integer? s.toList).bind sized?

/-- What a plain scalar spells. -/
def ofText (s : String) : Plain :=
  if s = "" ∨ isNull s then .null
  else match boolean? s with
    | some value => .boolean value
    | none => match whole? s with
      | some plain => plain
      | none =>
        if isZeroPadded s.toList then .text
        else match decimal? s.toList with
          | some value => .number (.decimal value)
          | none => .text

end Plain

end FolderBackup.Yaml
