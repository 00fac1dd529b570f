import DemoBuild.Number.Shortest

/-!
# Numbers as text

Integers are written in decimal. A floating-point number is written with the fewest digits that
read back; where the point goes, and when an exponent is used instead, is a `FloatStyle`.
-/

namespace DemoBuild.Number

/-- The decimal digits of a natural number. -/
def natText (n : Nat) : String :=
  String.ofList (Nat.toDigits 10 n)

/-- The decimal digits of an integer, after a minus sign if it is negative. -/
def intText (n : Int) : String :=
  (if n < 0 then "-" else "") ++ natText n.natAbs

/-- How floating-point numbers are written. -/
structure FloatStyle where
  /-- What follows the digits of a whole number. -/
  wholeSuffix : String
  /-- The positions of the decimal point, counted from the first digit, that are written out: all
  if `none`, else those after the first and up to the second number. -/
  points : Option (Int × Int)
  /-- Which of two digits is written that are equally near. -/
  tie : Double.TieRule
  /-- The text of what is no number. -/
  nan : String
  /-- The text of infinity. -/
  infinity : String

namespace FloatStyle

/-- The decimal point may stand at `point`, counted from the first digit. -/
def allows (style : FloatStyle) (point : Int) : Bool :=
  match style.points with
  | none => true
  | some (after, upTo) => after < point && point ≤ upTo

/-- Writes `digits` with the decimal point at `point`, counted from the first digit. -/
def positional (style : FloatStyle) (digits : List Char) (point : Int) : String :=
  if (digits.length : Int) ≤ point then
    String.ofList (digits ++ List.replicate (point - digits.length).toNat '0') ++ style.wholeSuffix
  else if 0 < point then
    String.ofList (digits.take point.toNat ++ '.' :: digits.drop point.toNat)
  else
    String.ofList ('0' :: '.' :: List.replicate (-point).toNat '0' ++ digits)

/-- Writes `digits` with the decimal point after the first one and a power of ten. -/
def scientific (digits : List Char) (point : Int) : String :=
  let mantissa :=
    match digits with
    | first :: second :: rest => first :: '.' :: second :: rest
    | _ => digits
  String.ofList mantissa ++ "e" ++ intText (point - 1)

/-- Writes a positive number given by its digits. -/
def renderDigits (style : FloatStyle) (d : Double.Digits) : String :=
  let digits := Nat.toDigits 10 d.digits
  let point := digits.length + d.exponent
  if style.allows point then style.positional digits point else scientific digits point

/-- Writes a number. -/
def render (style : FloatStyle) (x : Float) : String :=
  let sign (negative : Bool) := if negative then "-" else ""
  match Double.ofFloat x with
  | .nan => style.nan
  | .infinite negative => sign negative ++ style.infinity
  | .finite negative significand exponent =>
    sign negative ++
      if significand = 0 then "0" ++ style.wholeSuffix
      else style.renderDigits (Double.shortest style.tie significand exponent)

end FloatStyle

end DemoBuild.Number
