import DemoBuild.Number.Double

/-!
# Shortest decimal digits

The fewest significant digits that read back as a given double, and among those the ones nearest to
it; where two are equally near a `TieRule` decides. Everything is exact arithmetic on natural
numbers: the double `m * 2 ^ q` owns the interval of numbers that round to it, and the grids of one,
two, … digits are tried until one has a point there.
-/

namespace DemoBuild.Double

/-- Decimal digits with a power of ten: `digits * 10 ^ exponent`. -/
structure Digits where
  /-- The digits, read as a number. -/
  digits : Nat
  /-- The power of ten. -/
  exponent : Int
  deriving Repr, DecidableEq

/-- A positive fraction. -/
structure Fraction where
  /-- The numerator. -/
  num : Nat
  /-- The denominator. -/
  den : Nat

namespace Fraction

/-- The fraction `n * 2 ^ power`. -/
def binary (n : Nat) (power : Int) : Fraction :=
  if 0 ≤ power then ⟨n <<< power.toNat, 1⟩ else ⟨n, 1 <<< (-power).toNat⟩

/-- The fraction divided by `10 ^ power`. -/
def shiftTen (x : Fraction) (power : Int) : Fraction :=
  if 0 ≤ power then ⟨x.num, x.den * Nat.pow 10 power.toNat⟩
  else ⟨x.num * Nat.pow 10 (-power).toNat, x.den⟩

/-- The integer `n` is less than the fraction. -/
def above (x : Fraction) (n : Nat) : Bool :=
  n * x.den < x.num

/-- The integer `n` is greater than the fraction. -/
def below (x : Fraction) (n : Nat) : Bool :=
  x.num < n * x.den

/-- The greatest `e` with `10 ^ e ≤ x`, for a positive `x`: it is looked for among the numbers up
to `reach` below an upper bound. -/
def floorLog10 (x : Fraction) (bound : Int) : Nat → Int
  | 0 => bound
  | reach + 1 =>
    let scaled := x.shiftTen bound
    if scaled.den ≤ scaled.num then bound else x.floorLog10 (bound - 1) reach

end Fraction

/-- The numbers that round to the double `significand * 2 ^ exponent`, as a lower and an upper
bound; below a power of two the doubles lie closer together. -/
def roundingInterval (significand : Nat) (exponent : Int) : Fraction × Fraction :=
  let closer := significand == hidden && (1 - (bias : Int)) < exponent
  (Fraction.binary (4 * significand - if closer then 1 else 2) (exponent - 2),
    Fraction.binary (4 * significand + 2) (exponent - 2))

/-- Which of two digits is taken that are equally near. -/
inductive TieRule where
  /-- The greater one. -/
  | up
  /-- The even one. -/
  | even
  deriving DecidableEq, Repr

/-- In a tie between `n` and `n + 1` the rule takes `n + 1`. -/
def TieRule.takesNext (rule : TieRule) (n : Nat) : Bool :=
  rule == .up || n % 2 == 1

/-- The point of the grid of step `10 ^ power` that is nearest to `value` among its two neighbours
that lie in the interval; the ends belong to it if `closed`. -/
def gridPoint? (tie : TieRule) (value low high : Fraction) (closed : Bool) (power : Int) :
    Option Nat :=
  let value := value.shiftTen power
  let low := low.shiftTen power
  let high := high.shiftTen power
  let inside (n : Nat) : Bool :=
    if closed then !low.above n && !high.below n else low.below n && high.above n
  let floor := value.num / value.den
  let twice := 2 * (value.num % value.den)
  let nearerUp := value.den < twice || (value.den == twice && tie.takesNext floor)
  match inside floor, inside (floor + 1) with
  | true, true => some (if nearerUp then floor + 1 else floor)
  | true, false => some floor
  | false, true => some (floor + 1)
  | false, false => none

/-- Tries the grids with `17 - left`, … digits. -/
def shortestFrom (tie : TieRule) (value low high : Fraction) (closed : Bool) (top : Int) :
    Nat → Digits
  | 0 => ⟨0, 0⟩
  | left + 1 =>
    let power := top - (16 - left)
    match gridPoint? tie value low high closed power with
    | some digits => ⟨digits, power⟩
    | none => shortestFrom tie value low high closed top left

/-- Moves zeros at the end of the digits into the exponent. -/
def Digits.trim (d : Digits) : Nat → Digits
  | 0 => d
  | fuel + 1 =>
    if d.digits ≠ 0 ∧ d.digits % 10 = 0 then Digits.trim ⟨d.digits / 10, d.exponent + 1⟩ fuel else d

/-- The fewest digits that read back as the positive double `significand * 2 ^ exponent`, and among
those the nearest. -/
def shortest (tie : TieRule) (significand : Nat) (exponent : Int) : Digits :=
  let value := Fraction.binary significand exponent
  let (low, high) := roundingInterval significand exponent
  -- `2 ^ b ≤ 10 ^ (b * 0.30103 + 1)`, and the bound is at most two too great.
  let bits : Int := significand.log2 + exponent
  let bound := (bits + 1) * 30103 / 100000 + 1
  let top := value.floorLog10 bound 4
  (shortestFrom tie value low high (significand % 2 == 0) top 17).trim 17

end DemoBuild.Double
