/-!
# Doubles as exact fractions

A finite double is a sign, a significand and a power of two. `Double.ofFloat` takes a
floating-point number apart and `Double.nearest` rounds a fraction to the nearest one, a tie to the
even significand.
-/

namespace DemoBuild

/-- What the sixty-four bits of a floating-point number stand for. -/
inductive Double where
  /-- No number. -/
  | nan
  /-- Positive or negative infinity. -/
  | infinite (negative : Bool)
  /-- The number `significand * 2 ^ exponent`, negated if `negative`. -/
  | finite (negative : Bool) (significand : Nat) (exponent : Int)
  deriving Repr, DecidableEq

namespace Double

/-- The distance between the exponent field of a double and the power of two of its significand. -/
def bias : Nat := 1075

/-- One more than the greatest fraction field. -/
def hidden : Nat := 1 <<< 52

/-- The bit that negates a double. -/
def signBit : Nat := 1 <<< 63

/-- The exponent field of the doubles that are not finite. -/
def lastField : Nat := 2047

/-- Reads the sign, exponent and fraction fields. -/
def ofBits (bits : Nat) : Double :=
  let negative := bits / signBit % 2 == 1
  let field := bits / hidden % (lastField + 1)
  let fraction := bits % hidden
  if field = lastField then
    if fraction = 0 then .infinite negative else .nan
  else if field = 0 then .finite negative fraction (1 - bias)
  else .finite negative (fraction + hidden) (field - bias)

/-- Takes a floating-point number apart. -/
def ofFloat (x : Float) : Double :=
  ofBits x.toBits.toNat

/-- The quotient rounded to the nearest integer, a tie to the even one. -/
def roundHalfEven (num den : Nat) : Nat :=
  let quotient := num / den
  let twice := 2 * (num % den)
  if twice < den then quotient
  else if den < twice then quotient + 1
  else quotient + quotient % 2

/-- The greatest `e` with `2 ^ e ≤ num / den`, for positive `num` and `den`. -/
def floorLog2 (num den : Nat) : Int :=
  let estimate : Int := (num.log2 : Int) - den.log2
  -- The estimate is exact or one too great.
  let fits :=
    if 0 ≤ estimate then den <<< estimate.toNat ≤ num else den ≤ num <<< (-estimate).toNat
  if fits then estimate else estimate - 1

/-- The bits of the positive double nearest to `num / den`. A significand that rounds up to the
next power of two carries into the exponent field, as it should. -/
def nearestBits (num den : Nat) : Nat :=
  if num = 0 then 0
  else
    let power := max (floorLog2 num den - 52) (1 - bias)
    let significand :=
      if 0 ≤ power then roundHalfEven num (den <<< power.toNat)
      else roundHalfEven (num <<< (-power).toNat) den
    min (significand + (power + bias - 1).toNat * hidden) (lastField * hidden)

/-- The floating-point number nearest to `num / den`, negated if `negative`. -/
def nearest (negative : Bool) (num den : Nat) : Float :=
  Float.ofBits (UInt64.ofNat (nearestBits num den + if negative then signBit else 0))

/-- The floating-point number nearest to an integer. -/
def nearestInt (n : Int) : Float :=
  nearest (n < 0) n.natAbs 1

/-- Positive or negative infinity. -/
def infinity (negative : Bool) : Float :=
  Float.ofBits (UInt64.ofNat (lastField * hidden + if negative then signBit else 0))

/-- The number as an integer, if it is whole. -/
def toInt? : Double → Option Int
  | .finite negative significand exponent =>
    let magnitude? :=
      if 0 ≤ exponent then some (significand <<< exponent.toNat)
      else
        let unit := 1 <<< (-exponent).toNat
        if significand % unit = 0 then some (significand / unit) else none
    magnitude?.map fun magnitude => if negative then -(magnitude : Int) else magnitude
  | _ => none

end Double

end DemoBuild
