import FolderBackup.Decimal.Binary64

/-! The shortest decimal that reads back.

The decimals that read back as a given number fill an interval around it. On the coarsest
decimal grid with a point in that interval, the point nearest to the number gives its
digits. Two layouts write them: `positional` never uses an exponent, `compact` does for very
large and very small numbers. -/
namespace FolderBackup.Decimal

/-- Digits and the power of ten of the last one. -/
structure Digits where
  value : Nat
  power : Int
  deriving DecidableEq, Repr

/-- The point nearest to a number on the grid of the given power of ten, if one of the grid's
points reads back as the number. The number is `4 * mantissa` units, its neighbourhood
reaches from `lower` to `upper` units, and a unit is two to the power of `exponent - 2`. -/
def pointOn (mantissa : Nat) (exponent power : Int) (lower upper : Nat) : Option Nat :=
  let unitExponent := exponent - 2
  let scale := Nat.pow 10 (-power).toNat <<< unitExponent.toNat
  let grid := Nat.pow 10 power.toNat <<< (-unitExponent).toNat
  let first := if mantissa % 2 = 0 then (lower * scale + grid - 1) / grid
    else lower * scale / grid + 1
  let last := if mantissa % 2 = 0 then upper * scale / grid
    else (upper * scale + grid - 1) / grid - 1
  if first ≤ last then
    some (min last (max first (Binary64.roundHalfEven (4 * mantissa * scale) grid)))
  else none

/-- The first grid with a point, from the given power of ten downward. -/
def searchGrid (mantissa : Nat) (exponent : Int) (lower upper : Nat) : Nat → Int → Digits
  | 0, power => { value := 0, power }
  | fuel + 1, power => match pointOn mantissa exponent power lower upper with
    | some value => { value, power }
    | none => searchGrid mantissa exponent lower upper fuel (power - 1)

/-- The shortest digits of a finite number. -/
def shortest (mantissa : Nat) (exponent : Int) : Digits :=
  if mantissa = 0 then { value := 0, power := 0 }
  else
    let lower :=
      if mantissa = Binary64.fullMantissa ∧ Binary64.minExponent < exponent then 4 * mantissa - 1
      else 4 * mantissa - 2
    -- a power of ten above the number
    let top := (exponent + mantissa.log2 + 1) * 30103 / 100000 + 1
    searchGrid mantissa exponent lower (4 * mantissa + 2) 20 top

/-- The digits with the point where it belongs, and a zero where none stand before or after
it. -/
def pointed (digits : Digits) : List Char :=
  let ds := Nat.toDigits 10 digits.value
  if 0 ≤ digits.power then ds ++ List.replicate digits.power.toNat '0' ++ ['.', '0']
  else
    let after := (-digits.power).toNat
    if after < ds.length then ds.take (ds.length - after) ++ '.' :: ds.drop (ds.length - after)
    else '0' :: '.' :: (List.replicate (after - ds.length) '0' ++ ds)

/-- One digit before the point, the rest after it, and the exponent. -/
def scientific (digits : Digits) : List Char :=
  let ds := Nat.toDigits 10 digits.value
  let exponent : Int := digits.power + ds.length - 1
  ds.take 1 ++ (if ds.length = 1 then [] else '.' :: ds.drop 1) ++ 'e' :: (toString exponent).toList

def withSign (negative : Bool) (text : List Char) : String :=
  String.ofList (if negative then '-' :: text else text)

/-- A number without an exponent, however long that gets. -/
def positional : Binary64 → String
  | .finite negative mantissa exponent => withSign negative (pointed (shortest mantissa exponent))
  | .infinite negative => withSign negative "inf".toList
  | .nan => "NaN"

/-- A number with an exponent where the point would be more than sixteen places after the
first digit, or five or more zeros would stand after it. -/
def compact : Binary64 → String
  | .finite negative mantissa exponent =>
    let digits := shortest mantissa exponent
    let point : Int := digits.power + (Nat.toDigits 10 digits.value).length
    withSign negative
      (if mantissa = 0 ∨ (-5 < point ∧ point ≤ 16) then pointed digits else scientific digits)
  | .infinite negative => withSign negative ".inf".toList
  | .nan => ".nan"

end FolderBackup.Decimal
