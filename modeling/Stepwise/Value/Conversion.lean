import Stepwise.Issue
import Stepwise.Number.Literal

/-!
Declared types and what they do to values. Four kinds of primitive types have default values and conversions on
assignment; every other type name takes any value as it is and has null for its default.
-/

namespace Stepwise

set_option autoImplicit false

/-- The primitive types, the two integer types being one. -/
inductive Primitive
  | integer | double | boolean | char
  deriving DecidableEq, Repr

def Primitive.ofName? (name : String) : Option Primitive :=
  if name = "int" ∨ name = "long" then some .integer
  else if name = "double" then some .double
  else if name = "boolean" then some .boolean
  else if name = "char" then some .char
  else none

def withinDoubles : Option Float → Except Failure Float
  | some number => .ok number
  | none => .error (.fault .integerTooLargeForDouble)

def Numeric.toDouble : Numeric → Except Failure Float
  | integral value => withinDoubles (Number.ofInt? value)
  | double value => .ok value

/-- The integer part of a double; zero for one that is not a number. -/
def integerPart (number : Float) : Except Failure Int :=
  match Number.Parts.ofFloat number with
  | .nan => .ok 0
  | .infinity _ => .error (.bare .infiniteInteger)
  | .finite negative mantissa shift => .ok (Number.truncate negative mantissa shift)

namespace Value

/-- The value of a variable, an element or a field that was not given one. -/
def default (typeName : String) : Value :=
  match Primitive.ofName? typeName with
  | some .integer => int 0
  | some .double => double 0.0
  | some .boolean => bool false
  | some .char => char (.ofChar '\x00')
  | none => null

def coerceTo : Primitive → Value → Except Failure Value
  | .double, int value => double <$> (Numeric.integral value).toDouble
  | .double, char point => double <$> (Numeric.integral point.code).toDouble
  | .integer, double value => int <$> integerPart value
  | .integer, char point => .ok (int point.code)
  | .char, int value =>
      match CodePoint.ofCode? value with
      | some point => .ok (char point)
      | none => .ok (int value)
  | _, value => .ok value

/-- The value as it is stored at a place of a declared type, if it has one. -/
def coerce (value : Value) (typeName : Option String) : Except Failure Value :=
  match typeName.bind Primitive.ofName? with
  | some primitive => coerceTo primitive value
  | none => .ok value

end Value

end Stepwise
