import DemoBuild.Number.Reading
import DemoBuild.Number.Text

/-!
# Configuration values

A value is a truth value, an integer, a number, a text or a list of values. The readings of a value
(`truthy`, `text?`, `integer?`, `number?`) say what it means where one of these is asked for.
-/

namespace DemoBuild

/-- A configuration value. -/
inductive Value where
  /-- A truth value. -/
  | bool (value : Bool)
  /-- An integer of sixty-four bits. -/
  | integer (value : Int)
  /-- A floating-point number. -/
  | float (value : Float)
  /-- A text. -/
  | text (value : String)
  /-- A list of values. -/
  | list (values : List Value)
  deriving Inhabited

namespace Value

/-- Numbers are written without an exponent, whole ones without a point, and of two equally near
digits the greater one is written. -/
def floatStyle : Number.FloatStyle :=
  { wholeSuffix := "", points := none, tie := .up, nan := "NaN", infinity := "inf" }

mutual

/-- The text of a value; the elements of a list are separated by commas. -/
def render : Value → String
  | .bool true => "true"
  | .bool false => "false"
  | .integer n => Number.intText n
  | .float x => floatStyle.render x
  | .text s => s
  | .list values => ",".intercalate (renderAll values)

/-- The texts of several values. -/
def renderAll : List Value → List String
  | [] => []
  | v :: vs => v.render :: renderAll vs

end

/-- Whether the value switches something on. Zero, what is no number and the empty text do not;
every list does. -/
def truthy : Value → Bool
  | .bool b => b
  | .integer n => n != 0
  | .float x => x != 0.0 && !x.isNaN
  | .text s => s != ""
  | .list _ => true

/-- The value as a text, if it is one. -/
def text? : Value → Option String
  | .text s => some s
  | _ => none

/-- The value as a number: an integer, a number, or a text that denotes one. -/
def number? : Value → Option Float
  | .integer n => some (Double.nearestInt n)
  | .float x => some x
  | .text s => Number.readFloat? s.toList
  | _ => none

/-- The nearest integer of sixty-four bits. -/
def clampInt64 (n : Int) : Int :=
  max Number.minInt64 (min n Number.maxInt64)

/-- The value as an integer: an integer, a whole number, or a text that denotes an integer. Whole
numbers beyond sixty-four bits give the nearest integer that fits. -/
def integer? : Value → Option Int
  | .integer n => some n
  | .float x => (Double.ofFloat x).toInt?.map clampInt64
  | .text s => (Number.readInt? 10 s.toList).filter Number.fitsInt64
  | _ => none

/-- The elements of a list as texts; any other value is a list of one. -/
def texts : Value → List String
  | .list values => renderAll values
  | v => [v.render]

end Value

end DemoBuild
