import DemoBuild.Number.Double

/-!
# Numbers from text

Integers are an optional sign and digits of a radix. Floating-point numbers are an optional sign
and then `inf`, `infinity`, `nan` in any case, or decimal digits with at most one point and an
optional power of ten. Nothing else may stand before, between or after them.
-/

namespace DemoBuild.Number

/-- The value of a digit, up to radix thirty-six. -/
def digitValue (c : Char) : Nat :=
  if c.isDigit then c.toNat - '0'.toNat
  else if c.isLower then c.toNat - 'a'.toNat + 10
  else if c.isUpper then c.toNat - 'A'.toNat + 10
  else 36

/-- `c` is a digit of the radix. -/
def isDigitOf (radix : Nat) (c : Char) : Bool :=
  digitValue c < radix

/-- The number that digits of the radix denote. -/
def digitsValue (radix : Nat) (digits : List Char) : Nat :=
  digits.foldl (fun n c => n * radix + digitValue c) 0

/-- Reads one or more digits of the radix. -/
def readNat? (radix : Nat) (text : List Char) : Option Nat :=
  if text ≠ [] ∧ text.all (isDigitOf radix) then some (digitsValue radix text) else none

/-- Reads an optional sign and digits of the radix. -/
def readInt? (radix : Nat) : List Char → Option Int
  | '-' :: text => (readNat? radix text).map fun n => -(n : Int)
  | '+' :: text => (readNat? radix text).map Int.ofNat
  | text => (readNat? radix text).map Int.ofNat

/-- The least integer of sixty-four bits with a sign. -/
def minInt64 : Int := -9223372036854775808

/-- The greatest integer of sixty-four bits with a sign. -/
def maxInt64 : Int := 9223372036854775807

/-- `n` is an integer of sixty-four bits with a sign. -/
def fitsInt64 (n : Int) : Bool :=
  minInt64 ≤ n && n ≤ maxInt64

/-- Rounds `± digits * 10 ^ exponent`, where `digits` has `count` digits without leading zeros.
Powers of ten far beyond the range of doubles are not computed. -/
def roundDecimal (negative : Bool) (digits count : Nat) (exponent : Int) : Float :=
  if digits = 0 then Double.nearest negative 0 1
  else if 400 < exponent + count then Double.infinity negative
  else if exponent + count < -400 then Double.nearest negative 0 1
  else if 0 ≤ exponent then Double.nearest negative (digits * Nat.pow 10 exponent.toNat) 1
  else Double.nearest negative digits (Nat.pow 10 (-exponent).toNat)

/-- Reads an optional power of ten at the end of a number. -/
def readExponent? : List Char → Option Int
  | [] => some 0
  | 'e' :: text => readInt? 10 text
  | 'E' :: text => readInt? 10 text
  | _ => none

/-- Reads decimal digits with at most one point and an optional power of ten. -/
def readUnsignedFloat? (negative : Bool) (text : List Char) : Option Float :=
  let whole := text.takeWhile Char.isDigit
  let rest := text.dropWhile Char.isDigit
  let (fraction, rest) :=
    match rest with
    | '.' :: rest => (rest.takeWhile Char.isDigit, rest.dropWhile Char.isDigit)
    | _ => ([], rest)
  let digits := whole ++ fraction
  if digits = [] then none
  else
    let count := (digits.dropWhile (· == '0')).length
    (readExponent? rest).map fun power =>
      roundDecimal negative (digitsValue 10 digits) count (power - fraction.length)

/-- Reads the names of the numbers that are not finite. -/
def readNamedFloat? (negative : Bool) (text : List Char) : Option Float :=
  let name := text.map Char.toLower
  if name = "inf".toList ∨ name = "infinity".toList then some (Double.infinity negative)
  else if name = "nan".toList then some (0.0 / 0.0)
  else none

/-- Reads a floating-point number. -/
def readFloat? (text : List Char) : Option Float :=
  let (negative, text) :=
    match text with
    | '-' :: text => (true, text)
    | '+' :: text => (false, text)
    | _ => (false, text)
  readUnsignedFloat? negative text <|> readNamedFloat? negative text

end DemoBuild.Number
