import Stepwise.Number.Binary64

/-!
The number line on which integers and doubles meet. Every number has a place on it: a finite one its exact value in
units of 2^-1074, an infinity an end of the line, and the double that is not a number no place in the order. Numbers
are compared by place, so no comparison ever rounds.
-/

namespace Stepwise.Number

set_option autoImplicit false

inductive Place
  | unordered
  | lowEnd
  | exactly (units : Int)
  | highEnd
  deriving DecidableEq, Repr

namespace Place

def ofInt (integer : Int) : Place :=
  .exactly (integer * unitsPerOne)

def ofFloat (number : Float) : Place :=
  match Parts.ofFloat number with
  | .nan => .unordered
  | .infinity negative => if negative then .lowEnd else .highEnd
  | .finite negative mantissa shift =>
      let units : Int := (mantissa * Nat.pow 2 shift : Nat)
      .exactly (if negative then -units else units)

def same : Place → Place → Bool
  | .unordered, _ => false
  | _, .unordered => false
  | left, right => decide (left = right)

def before : Place → Place → Bool
  | .unordered, _ => false
  | _, .unordered => false
  | .exactly left, .exactly right => decide (left < right)
  | .lowEnd, right => decide (right ≠ .lowEnd)
  | .exactly _, right => decide (right = .highEnd)
  | .highEnd, _ => false

def notAfter (left right : Place) : Bool :=
  before left right || same left right

end Place

end Stepwise.Number
