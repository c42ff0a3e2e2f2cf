import CatalogSearch.Double.Shortest

/-!
# Doubles as text

The text of a finite double is its shortest decimal, always with a point or an exponent, so that
it never reads as an integer: positional from `0.00001` up to below `10 ^ 16`, and in scientific
form with a signed exponent elsewhere. The second half reads decimals back, correctly rounded.
-/

namespace CatalogSearch

/-! A power of a number is the core library's power, whatever other powers are in scope. -/

attribute [local instance (1100)] instPowNat

/-- The decimal digits of a natural number, most significant first. -/
def decimalDigits (n : Nat) : List Char := Nat.toDigits 10 n

/-- The text of an integer: its digits, after a minus sign if it is negative. -/
def integerText (n : Int) : List Char :=
  if n < 0 then '-' :: decimalDigits n.natAbs else decimalDigits n.natAbs

namespace Decimal

/-- The exponent of the leading digit of a decimal. -/
def leading (decimal : Decimal) : Int :=
  decimal.exponent + (decimalDigits decimal.digits).length - 1

/-- A decimal in positional form, with at least one digit on each side of the point. -/
def positional (decimal : Decimal) : List Char :=
  let digits := decimalDigits decimal.digits
  if 0 ≤ decimal.exponent then
    digits ++ List.replicate decimal.exponent.toNat '0' ++ ['.', '0']
  else if 0 ≤ decimal.leading then
    let whole := decimal.leading.toNat + 1
    digits.take whole ++ '.' :: digits.drop whole
  else '0' :: '.' :: List.replicate (-decimal.leading - 1).toNat '0' ++ digits

/-- A decimal in scientific form: one digit, the others after a point if there are any, and the
exponent with its sign. -/
def scientific (decimal : Decimal) : List Char :=
  let digits := decimalDigits decimal.digits
  let fraction := digits.drop 1
  let sign := if decimal.leading < 0 then '-' else '+'
  digits.take 1 ++ (if fraction.isEmpty then [] else '.' :: fraction) ++
    'e' :: sign :: decimalDigits decimal.leading.natAbs

/-- The text of a decimal: positional while its leading exponent is at least -5 and below 16. -/
def text (decimal : Decimal) : List Char :=
  if -5 ≤ decimal.leading ∧ decimal.leading < 16 then decimal.positional else decimal.scientific

end Decimal

/-- The text of a finite double. -/
def Finite.text (value : Finite) : List Char :=
  (if value.negative then ['-'] else []) ++ value.shortest.text

/-- The text of a double; those that are not finite have a name each. -/
def Double.text : Double → String
  | .finite value => String.ofList value.text
  | .infinite false => "inf"
  | .infinite true => "-inf"
  | .nan => "NaN"

namespace Double

/-- The double nearest to `digits * 10 ^ exponent`, rounded once. Exponents far out of range are
settled without computing the power: above `10 ^ 400` nothing is finite, and below `2 ^ -1100` all
rounds to zero. -/
def ofDecimal (negative : Bool) (digits : Nat) (exponent : Int) : Double :=
  if digits = 0 then .finite (Finite.zero negative)
  else if 400 < exponent then .infinite negative
  else if (digits.log2 : Int) + 1 + 3 * exponent < -1100 then .finite (Finite.zero negative)
  else
    ofRatio negative (digits * 10 ^ exponent.toNat) (10 ^ (-exponent).toNat)
      (Nat.pow_pos (by decide))

end Double

/-- The nearest to a natural number of those with 53 significant bits, ties to even. -/
def significant (n : Nat) : Nat :=
  nearestEven n (2 ^ (n.log2 - 52)) * 2 ^ (n.log2 - 52)

/-- Only zero is rounded to zero. -/
theorem significant_pos {n : Nat} (h : 0 < n) : 0 < significant n := by
  have hunit : 1 * 2 ^ (n.log2 - 52) ≤ n :=
    calc 1 * 2 ^ (n.log2 - 52)
        = 2 ^ (n.log2 - 52) := Nat.one_mul _
      _ ≤ 2 ^ n.log2 := Nat.pow_le_pow_right (by decide) (Nat.sub_le _ _)
      _ ≤ n := Nat.log2_self_le (Nat.ne_of_gt h)
  exact Nat.mul_pos (le_nearestEven (Nat.two_pow_pos _) hunit) (Nat.two_pow_pos _)

/-- The size of the double nearest to `10 ^ places`. -/
def doubleTen (places : Nat) : Nat := significant (10 ^ places)

/-- No power of ten is rounded to zero. -/
theorem doubleTen_pos (places : Nat) : 0 < doubleTen places :=
  significant_pos (Nat.pow_pos (by decide))

namespace Finite

/-- A double times a power of ten, rounded; none when that exceeds the greatest finite double. -/
def timesTen? (value : Finite) (places : Nat) : Option Finite :=
  ofRatio? value.negative (value.num * doubleTen places) value.den (Nat.two_pow_pos _)

/-- A double divided by a power of ten, rounded. -/
def overTen? (value : Finite) (places : Nat) : Option Finite :=
  ofRatio? value.negative value.num (value.den * doubleTen places)
    (Nat.mul_pos (Nat.two_pow_pos _) (doubleTen_pos places))

/-- Divide by `10 ^ 308` a number of times, or until zero is left. -/
def shrink? : Nat → Finite → Option Finite
  | 0, value => some value
  | rounds + 1, value =>
    if value.mantissa = 0 then some value else (value.overTen? 308).bind (shrink? rounds)

/-- A double times `10 ^ exponent`, in steps that are rounded each. The greatest power of ten among
the doubles is `10 ^ 308`: a higher exponent is too great for any value but zero, and a lower
negative one is taken in several divisions. -/
def scale? (value : Finite) (exponent : Int) : Option Finite :=
  if value.mantissa = 0 then some value
  else if 308 < exponent then none
  else if 0 ≤ exponent then value.timesTen? exponent.toNat
  else
    let places := (-exponent).toNat
    let rounds := (places - 1) / 308
    (value.shrink? rounds).bind fun value => value.overTen? (places - 308 * rounds)

end Finite

/-- The number written by a list of decimal digits; other characters are not expected. -/
def natOfDigits (digits : List Char) : Nat :=
  digits.foldl (fun n c => 10 * n + (c.toNat - '0'.toNat)) 0

/-- Split a leading sign off a text: whether it is a minus sign, and the rest. -/
def splitSign : List Char → Bool × List Char
  | '-' :: rest => (true, rest)
  | '+' :: rest => (false, rest)
  | rest => (false, rest)

/-- Read a non-empty run of decimal digits that fills the text. -/
def readDigits? (text : List Char) : Option Nat :=
  if text.isEmpty then none
  else if text.all Char.isDigit then some (natOfDigits text)
  else none

/-- Read a decimal integer with an optional sign. -/
def readInteger? (text : List Char) : Option Int :=
  let (negative, digits) := splitSign text
  (readDigits? digits).map fun n => if negative then -(n : Int) else n

namespace Double

/-- Read the part of a decimal that follows its mantissa: nothing, or an exponent mark and an
integer. -/
def readExponent? : List Char → Option Int
  | [] => some 0
  | mark :: rest => if mark = 'e' ∨ mark = 'E' then readInteger? rest else none

/-- Read an unsigned decimal. A point may stand at either end of the digits, of which there must
be one at least. -/
def readDecimal? (negative : Bool) (text : List Char) : Option Double := do
  let whole := text.takeWhile Char.isDigit
  let (fraction, rest) :=
    match text.dropWhile Char.isDigit with
    | '.' :: rest => (rest.takeWhile Char.isDigit, rest.dropWhile Char.isDigit)
    | rest => ([], rest)
  guard (!(whole.isEmpty && fraction.isEmpty))
  let exponent ← readExponent? rest
  pure (ofDecimal negative (natOfDigits (whole ++ fraction)) (exponent - fraction.length))

/-- Read the text of a double: an optional sign, and a decimal or, in any case, one of the words
for infinity and the non-number. -/
def ofText? (text : List Char) : Option Double :=
  let (negative, body) := splitSign text
  let word := body.map Char.toLower
  if word = "inf".toList ∨ word = "infinity".toList then some (.infinite negative)
  else if word = "nan".toList then some .nan
  else readDecimal? negative body

end Double

end CatalogSearch
