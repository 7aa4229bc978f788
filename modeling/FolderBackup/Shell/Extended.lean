import FolderBackup.Shell.Octets

/-! Numbers with 64 bits of precision.

A number with a fraction is the nearest one of the form `mantissa * 2 ^ exponent` whose mantissa has
64 bits. It is written with as many digits as are asked for; the last one is rounded, and a tie goes to
the even digit. -/
namespace FolderBackup.Shell

/-- A number with a fraction, or none at all. -/
inductive Extended where
  | finite (negative : Bool) (mantissa : Nat) (exponent : Int)
  | infinite (negative : Bool)
  | undefined (negative : Bool)
  deriving DecidableEq, Repr

namespace Extended

/-- A quotient rounded to the nearest whole number, a tie to the even one. -/
def rounded (numerator denominator : Nat) : Nat :=
  let quotient := numerator / denominator
  let rest := 2 * (numerator % denominator)
  if denominator < rest ∨ (rest = denominator ∧ quotient % 2 = 1) then quotient + 1 else quotient

/-- A fraction times a power of two, as a numerator and a denominator. -/
def scaled (numerator denominator : Nat) (exponent : Int) : Nat × Nat :=
  if 0 ≤ exponent then (numerator * Nat.pow 2 exponent.toNat, denominator)
  else (numerator, denominator * Nat.pow 2 (-exponent).toNat)

/-- The largest power of two that a mantissa may be multiplied by. -/
def largestPower : Int := 16320

/-- The nearest number to a fraction. -/
def ofFraction (negative : Bool) (numerator denominator : Nat) : Extended :=
  if numerator = 0 then .finite negative 0 0
  else
    let estimate : Int := (numerator.log2 : Int) - denominator.log2 - 63
    let (n, d) := scaled numerator denominator (-estimate)
    -- the estimate may be one too large
    let exponent := if n / d < Nat.pow 2 63 then estimate - 1 else estimate
    let (n, d) := scaled numerator denominator (-exponent)
    if largestPower < exponent then .infinite negative
    else .finite negative (rounded n d) exponent

/-- The largest exponent of ten that is looked at. -/
def maxExponent : Nat := 5000

/-- The number that digits, a point and an exponent of ten spell. -/
def ofDigits (negative : Bool) (whole fraction : List Char) (exponent : Int) : Extended :=
  let digits := valueOf 10 (whole ++ fraction)
  let shift := exponent - fraction.length
  if digits = 0 then .finite negative 0 0
  else if maxExponent < shift + (whole.length + fraction.length) then .infinite negative
  else if shift < -(2 * maxExponent : Int) then .finite negative 0 0
  else if 0 ≤ shift then ofFraction negative (digits * Nat.pow 10 shift.toNat) 1
  else ofFraction negative digits (Nat.pow 10 (-shift).toNat)

/-- An exponent after a letter, and what comes after it; nothing is taken if there is none. -/
def exponentAt (letter : Char) (text : List Char) : Int × List Char :=
  match text with
  | c :: rest =>
    let signed := rest.head? = some '-' ∨ rest.head? = some '+'
    let digits := (if signed then rest.tail else rest).takeWhile Char.isDigit
    if c.toLower = letter ∧ !digits.isEmpty then
      let n : Int := valueOf 10 digits
      (if rest.head? = some '-' then -n else n,
        (if signed then rest.tail else rest).drop digits.length)
    else (0, text)
  | [] => (0, [])

/-- The number at the start of a text, and what comes after it; zero if there is none. -/
def ofText (text : List Char) : Extended × List Char :=
  let start := text.dropWhile isSpace
  let negative := start.head? = some '-'
  let rest := if negative ∨ start.head? = some '+' then start.tail else start
  let lower := rest.map Char.toLower
  let named (name : String) : Bool := name.toList.isPrefixOf lower
  if named "infinity" then (.infinite negative, rest.drop 8)
  else if named "inf" then (.infinite negative, rest.drop 3)
  else if named "nan" then (.undefined negative, rest.drop 3)
  else
    let isHex := named "0x" && (rest.drop 2).head?.any fun c => isHexadecimal c || c == '.'
    let body := if isHex then rest.drop 2 else rest
    let isOwn := if isHex then isHexadecimal else Char.isDigit
    let whole := body.takeWhile isOwn
    let after := body.drop whole.length
    let fraction := if after.head? = some '.' then after.tail.takeWhile isOwn else []
    let after := if after.head? = some '.' then after.drop (fraction.length + 1) else after
    if whole.isEmpty ∧ fraction.isEmpty then (.finite false 0 0, text)
    else if isHex then
      let (exponent, after) := exponentAt 'p' after
      let (n, d) := scaled (valueOf 16 (whole ++ fraction)) 1 (exponent - 4 * fraction.length)
      (ofFraction negative n d, after)
    else
      let (exponent, after) := exponentAt 'e' after
      (ofDigits negative whole fraction exponent, after)

/-! ### Writing -/

/-- The fraction that a number is. -/
def fraction (mantissa : Nat) (exponent : Int) : Nat × Nat := scaled mantissa 1 exponent

/-- The digits of a number, zeros put before it up to a width. -/
def digitsOf (width n : Nat) : List Char :=
  let digits := (toString n).toList
  List.replicate (width - digits.length) '0' ++ digits

/-- A point and some digits; the point is left out if there are none, unless it is to be kept. -/
def pointed (keepsPoint : Bool) (digits : List Char) : List Char :=
  if digits.isEmpty ∧ !keepsPoint then [] else '.' :: digits

/-- With so many digits after the point. -/
def fixed (keepsPoint : Bool) (places mantissa : Nat) (exponent : Int) : List Char :=
  let (n, d) := fraction mantissa exponent
  let digits := digitsOf (places + 1) (rounded (n * Nat.pow 10 places) d)
  let count := digits.length - places
  digits.take count ++ pointed keepsPoint (digits.drop count)

/-- The digits of a number, and the power of ten that the first one counts. -/
def leadingDigits (count mantissa : Nat) (exponent : Int) : List Char × Int :=
  if mantissa = 0 then (List.replicate count '0', 0)
  else
    let (n, d) := fraction mantissa exponent
    let tens (power : Int) : Nat :=
      -- the number with so many digits, if its first one counts this power of ten
      let shift := (count : Int) - 1 - power
      if 0 ≤ shift then rounded (n * Nat.pow 10 shift.toNat) d
      else rounded n (d * Nat.pow 10 (-shift).toNat)
    let guess : Int := ((n.log2 : Int) - d.log2) * 30103 / 100000 - 1
    let power := ((List.range 4).map fun (k : Nat) => guess + (k : Int)).find? fun power =>
      tens power < Nat.pow 10 count
    let power := power.getD guess
    (digitsOf count (tens power), power)

/-- An exponent of ten as it is written, with at least two digits. -/
def exponentText (letter : Char) (power : Int) : List Char :=
  letter :: (if power < 0 then '-' else '+') :: digitsOf 2 power.natAbs

/-- With one digit before the point, so many after it, and an exponent. -/
def scientific (keepsPoint : Bool) (letter : Char) (places mantissa : Nat) (exponent : Int) :
    List Char :=
  let (digits, power) := leadingDigits (places + 1) mantissa exponent
  digits.take 1 ++ pointed keepsPoint (digits.drop 1) ++ exponentText letter power

/-- Without the zeros after a point at the end. -/
def trimmed (digits : List Char) : List Char :=
  if digits.contains '.' then
    let kept := (digits.reverse.dropWhile (· == '0')).reverse
    if kept.getLast? = some '.' then kept.dropLast else kept
  else digits

/-- With so many digits in all, in the shorter way. -/
def general (keepsZeros : Bool) (letter : Char) (places mantissa : Nat) (exponent : Int) :
    List Char :=
  let count := if places = 0 then 1 else places
  let (digits, power) := leadingDigits count mantissa exponent
  let shown (text : List Char) : List Char := if keepsZeros then text else trimmed text
  if -4 ≤ power ∧ power < count then
    shown (fixed keepsZeros ((count : Int) - 1 - power).toNat mantissa exponent)
  else
    shown (digits.take 1 ++ pointed keepsZeros (digits.drop 1)) ++ exponentText letter power

/-- The digits of a number in base sixteen, the first of which counts four bits, and the power of two
that it is multiplied by; so many digits after the first one, or as many as are needed. -/
def sixteenths (places : Option Nat) (mantissa : Nat) (exponent : Int) : List Char × Int :=
  let size := mantissa.log2 + 1
  let (bits, last) := scaled mantissa 1 (64 - (size : Int))
  let bits := bits / last
  let power := exponent + size - 4
  match places with
  | none =>
    let digits := Nat.toDigits 16 bits
    ((digits.reverse.dropWhile (· == '0')).reverse, power)
  | some places =>
    let digits := Nat.toDigits 16 (rounded bits (Nat.pow 16 (15 - places)))
    if 16 < places + 1 then (digits ++ List.replicate (places - 15) '0', power)
    else if places + 1 < digits.length then (digits.take (places + 1), power + 4)
    else (digits, power)

/-- With digits of base sixteen and an exponent of two. -/
def hexadecimal (keepsPoint : Bool) (places : Option Nat) (mantissa : Nat) (exponent : Int) :
    List Char :=
  let (digits, power) := if mantissa = 0 then (List.replicate (places.getD 0 + 1) '0', 0)
    else sixteenths places mantissa exponent
  digits.take 1 ++ pointed keepsPoint (digits.drop 1) ++
    'p' :: (if power < 0 then '-' else '+') :: (toString power.natAbs).toList

end Extended

end FolderBackup.Shell
