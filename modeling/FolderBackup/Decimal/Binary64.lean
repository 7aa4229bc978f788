/-! Numbers of double precision, held exactly.

A finite number is a mantissa below 2^53 times a power of two, the mantissa being at least
2^52 unless the exponent is the least one. `ofDecimal` is the number nearest to a decimal,
of two equally near the one with the even mantissa. -/
namespace FolderBackup.Decimal

/-- A number of double precision. -/
inductive Binary64 where
  | finite (negative : Bool) (mantissa : Nat) (exponent : Int)
  | infinite (negative : Bool)
  | nan
  deriving DecidableEq, Repr

namespace Binary64

/-- The least exponent. -/
def minExponent : Int := -1074

/-- The largest exponent. -/
def maxExponent : Int := 971

/-- The least mantissa that fills all its places. -/
def fullMantissa : Nat := 0x10000000000000

/-- The quotient rounded to a whole number, a half going to the even neighbour. -/
def roundHalfEven (num den : Nat) : Nat :=
  let q := num / den
  let r := num % den
  if 2 * r < den then q
  else if den < 2 * r then q + 1
  else if q % 2 = 0 then q else q + 1

/-- The quotient of two whole numbers times a power of two, rounded. -/
def scaledQuotient (num den : Nat) (exponent : Int) : Nat :=
  if 0 ≤ exponent then roundHalfEven num (den <<< exponent.toNat)
  else roundHalfEven (num <<< (-exponent).toNat) den

/-- The number nearest to a positive fraction. -/
def ofFraction (negative : Bool) (num den : Nat) : Binary64 :=
  if num = 0 then .finite negative 0 minExponent
  else
    let estimate : Int := (num.log2 : Int) - (den.log2 : Int) - 52
    -- the estimate is the exponent or one more than it
    let start := max minExponent (estimate - 1)
    let exponent := if 2 * fullMantissa ≤ scaledQuotient num den start then start + 1 else start
    let mantissa := scaledQuotient num den exponent
    let (mantissa, exponent) :=
      if mantissa = 2 * fullMantissa then (fullMantissa, exponent + 1) else (mantissa, exponent)
    if maxExponent < exponent then .infinite negative else .finite negative mantissa exponent

/-- The number nearest to `digits` times a power of ten. -/
def ofDecimal (negative : Bool) (digits : Nat) (power : Int) : Binary64 :=
  let magnitude := power + (Nat.toDigits 10 digits).length
  if digits = 0 ∨ magnitude < -330 then .finite negative 0 minExponent
  else if 310 < magnitude then .infinite negative
  else if 0 ≤ power then ofFraction negative (digits * Nat.pow 10 power.toNat) 1
  else ofFraction negative digits (Nat.pow 10 (-power).toNat)

end Binary64

/-- The value of a run of decimal digits. -/
def digitsValue (digits : List Char) : Nat :=
  digits.foldl (fun n c => 10 * n + (c.toNat - '0'.toNat)) 0

/-- A decimal number as it is written: a run of digits with at most one point in it, then
perhaps an exponent. None if the text is anything else. -/
def readUnsigned (negative : Bool) (text : List Char) : Option Binary64 :=
  let whole := text.takeWhile Char.isDigit
  let afterWhole := text.dropWhile Char.isDigit
  let (fraction, afterFraction) := match afterWhole with
    | '.' :: rest => (rest.takeWhile Char.isDigit, rest.dropWhile Char.isDigit)
    | _ => ([], afterWhole)
  if whole.isEmpty && fraction.isEmpty then none
  else
    let number (power : Int) :=
      Binary64.ofDecimal negative (digitsValue (whole ++ fraction)) (power - fraction.length)
    match afterFraction with
    | [] => some (number 0)
    | e :: rest =>
      if e ≠ 'e' ∧ e ≠ 'E' then none
      else
        let (minus, digits) := match rest with
          | '-' :: ds => (true, ds)
          | '+' :: ds => (false, ds)
          | ds => (false, ds)
        if digits.isEmpty || !digits.all Char.isDigit then none
        else some (number (if minus then -(digitsValue digits : Int) else digitsValue digits))

/-- A decimal number with perhaps a sign before it. -/
def read : List Char → Option Binary64
  | '-' :: rest => readUnsigned true rest
  | '+' :: rest => readUnsigned false rest
  | text => readUnsigned false text

end FolderBackup.Decimal
