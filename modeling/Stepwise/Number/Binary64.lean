/-!
Doubles as exact numbers. A finite double is a natural number of units of 2^-1074, the least positive double, with
a sign; reading it that way makes truncation, remainder, comparison and printing questions of integer arithmetic. In
the other direction a ratio of naturals is rounded to the nearest double, a tie going to the even neighbour.
-/

namespace Stepwise.Number

set_option autoImplicit false

/-- A double taken apart. A finite one has the magnitude `mantissa * 2 ^ shift` in units of 2^-1074. -/
inductive Parts
  | nan
  | infinity (negative : Bool)
  | finite (negative : Bool) (mantissa shift : Nat)
  deriving DecidableEq, Repr

def unitsPerOne : Nat := Nat.pow 2 1074

def Parts.ofFloat (number : Float) : Parts :=
  let bits := number.toBits.toNat
  let negative := decide (Nat.pow 2 63 ≤ bits)
  let exponent := bits / Nat.pow 2 52 % Nat.pow 2 11
  let fraction := bits % Nat.pow 2 52
  if exponent = 2047 then
    if fraction = 0 then .infinity negative else .nan
  else if exponent = 0 then .finite negative fraction 0
  else .finite negative (fraction + Nat.pow 2 52) (exponent - 1)

/-- The least bit pattern, the sign aside, that stands for no finite double. -/
def infinityBits : Nat := 2047 * Nat.pow 2 52

/-- The double of magnitude `mantissa * 2 ^ shift` units, for a mantissa of at most 2^53 that reaches 2^52
unless the shift is zero; an infinity beyond the finite range. -/
def pack (negative : Bool) (mantissa shift : Nat) : Float :=
  let magnitude := min (shift * Nat.pow 2 52 + mantissa) infinityBits
  Float.ofBits (UInt64.ofNat ((if negative then Nat.pow 2 63 else 0) + magnitude))

/-- The integer nearest to a quotient, a tie going to the even one. -/
def roundHalfEven (numerator denominator : Nat) : Nat :=
  let quotient := numerator / denominator
  let twice := 2 * (numerator % denominator)
  if twice < denominator then quotient
  else if denominator < twice then quotient + 1
  else quotient + quotient % 2

def nearest (negative : Bool) (numerator denominator : Nat) : Float :=
  let units := numerator * unitsPerOne
  let shift := (units / denominator).log2 - 52
  pack negative (roundHalfEven units (denominator * Nat.pow 2 shift)) shift

def ofInt? (integer : Int) : Option Float :=
  let double := nearest (decide (integer < 0)) integer.natAbs 1
  match Parts.ofFloat double with
  | .finite .. => some double
  | _ => none

def truncate (negative : Bool) (mantissa shift : Nat) : Int :=
  let whole : Int := (mantissa * Nat.pow 2 shift / unitsPerOne : Nat)
  if negative then -whole else whole

/-- The remainder of one finite double by another that is not zero, with the sign of the dividend. It is exact. -/
def remainder (negative : Bool) (dividend divisor : Nat) : Float :=
  nearest negative (dividend % divisor) unitsPerOne

end Stepwise.Number
