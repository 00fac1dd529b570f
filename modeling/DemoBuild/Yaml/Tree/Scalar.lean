import DemoBuild.Number.Reading
import DemoBuild.Yaml.Tag
import DemoBuild.Yaml.Tree

/-!
# What scalars mean

A plain scalar is nothing, a truth value, an integer, a floating-point number or a text, whichever
fits first. A tag of the language (`!!int` and the like) asks for one of these.
-/

namespace DemoBuild.Yaml

/-- The spellings of nothing. -/
def isNullText (text : String) : Bool :=
  ["~", "null", "Null", "NULL"].contains text

/-- The spellings of the truth values. -/
def boolOf? (text : String) : Option Bool :=
  if ["true", "True", "TRUE"].contains text then some true
  else if ["false", "False", "FALSE"].contains text then some false
  else none

/-- The text consists of digits after an optional sign but has a zero too many in front. -/
def hasExtraZero (text : List Char) : Bool :=
  let digits :=
    match text with
    | '-' :: rest => rest
    | '+' :: rest => rest
    | _ => text
  1 < digits.length && digits.head? == some '0' && digits.all Char.isDigit

/-- Reads digits without a sign, after the mark of a radix if there is one. -/
def readMarkedNat? : List Char → Option Nat
  | '0' :: 'x' :: rest => Number.readNat? 16 rest
  | '0' :: 'o' :: rest => Number.readNat? 8 rest
  | '0' :: 'b' :: rest => Number.readNat? 2 rest
  | text => Number.readNat? 10 text

/-- Reads an integer of any size. -/
def readInteger? (text : List Char) : Option Int :=
  if hasExtraZero text then none
  else
    match text with
    | '-' :: rest => (readMarkedNat? rest).map fun n => -(n : Int)
    | '+' :: rest => (readMarkedNat? rest).map Int.ofNat
    | _ => (readMarkedNat? text).map Int.ofNat

/-- What an integer scalar gives: integers of sixty-four bits, with or without a sign, are kept;
those beyond one hundred and twenty-eight bits are none; the ones between are refused. -/
inductive IntegerScalar where
  /-- The scalar is an integer that is kept. -/
  | kept (n : Int)
  /-- The scalar is an integer that is refused. -/
  | refused
  /-- The scalar is no integer. -/
  | none

/-- Reads a scalar as an integer. -/
def integerScalar (text : String) : IntegerScalar :=
  match readInteger? text.toList with
  | Option.none => .none
  | some n =>
    let fits (bits : Nat) : Bool := -((1 <<< (bits - 1) : Nat) : Int) ≤ n && n < (1 <<< bits : Nat)
    if fits 64 then .kept n
    else if fits 128 then .refused
    else .none

/-- Reads a scalar as a floating-point number. Infinity and what is no number start with a point;
numbers whose nearest double is infinite are none. -/
def floatScalar? (text : String) : Option Float :=
  let unsigned : Option (List Char) :=
    match text.toList with
    | '+' :: '+' :: _ | '+' :: '-' :: _ => none
    | '+' :: rest => some rest
    | text => some text
  match unsigned with
  | none => none
  | some unsigned =>
    if [".inf", ".Inf", ".INF"].contains (String.ofList unsigned) then some (Double.infinity false)
    else if ["-.inf", "-.Inf", "-.INF"].contains text then some (Double.infinity true)
    else if [".nan", ".NaN", ".NAN"].contains text then some (0.0 / 0.0)
    else (Number.readFloat? unsigned).filter Float.isFinite

/-- What a plain scalar means; `none` for an integer that is refused. -/
def plainScalar? (text : String) : Option Tree :=
  if text.isEmpty || isNullText text then some .null
  else
    match boolOf? text with
    | some b => some (.bool b)
    | none =>
      match integerScalar text with
      | .kept n => some (.integer n)
      | .refused => none
      | .none =>
        if hasExtraZero text.toList then some (.text text)
        else
          match floatScalar? text with
          | some x => some (.float x)
          | none => some (.text text)

/-- What a scalar means whose tag is a name of the language; `none` if the tag does not fit. Other
such tags give texts. -/
def taggedScalar? (tag : Tag) (text : String) : Option Tree :=
  if tag = .language "bool" then (boolOf? text).map .bool
  else if tag = .language "int" then
    match integerScalar text with
    | .kept n => some (.integer n)
    | _ => none
  else if tag = .language "float" then (floatScalar? text).map .float
  else if tag = .language "null" then if isNullText text then some .null else none
  else some (.text text)

end DemoBuild.Yaml
