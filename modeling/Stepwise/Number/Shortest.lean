import Stepwise.Number.Binary64

/-!
The shortest decimal of a double. The reals that round to a double form an interval around it, its ends included
when the mantissa is even. For one digit, two digits and so on up to seventeen, the two neighbours of the double on
the grid of decimals with that many digits are tried; the first grid with a neighbour in the interval decides, and of
two neighbours in the interval the nearer is taken, the even one in a tie.
-/

namespace Stepwise.Number

set_option autoImplicit false

/-- A positive decimal: the digits are those of the number `0.d1d2d3…` multiplied by ten to the `point`. -/
structure Decimal where
  digits : List Char
  point : Int
  deriving DecidableEq, Repr

def powerOfTen (exponent : Int) : Nat × Nat :=
  if 0 ≤ exponent then (Nat.pow 10 exponent.toNat, 1) else (1, Nat.pow 10 (-exponent).toNat)

def digitCount (number : Nat) : Nat :=
  (Nat.toDigits 10 number).length

/-- The exponent `point` with `10 ^ (point - 1) ≤ numerator / denominator < 10 ^ point`, for a positive ratio. -/
def decimalPoint (numerator denominator : Nat) : Int :=
  if denominator ≤ numerator then digitCount (numerator / denominator)
  else
    let length := digitCount (denominator / numerator)
    if numerator * Nat.pow 10 (length - 1) < denominator then 1 - (length : Int) else 2 - (length : Int)

/-- The interval of reals that round to a double, in quarters of a unit, and whether its ends belong to it. -/
structure Interval where
  low : Nat
  value : Nat
  high : Nat
  closed : Bool
  deriving DecidableEq, Repr

/-- Below a power of two the doubles lie twice as close, so there the lower half gap is half as wide. -/
def Interval.ofFinite (mantissa shift : Nat) : Interval :=
  let gap := Nat.pow 2 shift
  let value := 4 * mantissa * gap
  let below := if mantissa = Nat.pow 2 52 ∧ 0 < shift then gap else 2 * gap
  { low := value - below, value, high := value + 2 * gap, closed := mantissa % 2 = 0 }

def quartersPerOne : Nat := 4 * unitsPerOne

/-- Whether the decimal `coefficient * scale` lies in the interval, where `scale` is a ratio of naturals. -/
def Interval.holds (interval : Interval) (scale : Nat × Nat) (coefficient : Nat) : Bool :=
  let decimal := coefficient * scale.1 * quartersPerOne
  if interval.closed then
    decide (interval.low * scale.2 ≤ decimal) && decide (decimal ≤ interval.high * scale.2)
  else
    decide (interval.low * scale.2 < decimal) && decide (decimal < interval.high * scale.2)

/-- The best decimal on the grid of the given scale, if one lies in the interval. -/
def Interval.onGrid? (interval : Interval) (scale : Nat × Nat) : Option Nat :=
  let step := scale.1 * quartersPerOne
  let scaled := interval.value * scale.2
  let lower := scaled / step
  match interval.holds scale lower, interval.holds scale (lower + 1) with
  | true, true => some (roundHalfEven scaled step)
  | true, false => some lower
  | false, true => some (lower + 1)
  | false, false => none

def Decimal.ofCoefficient (coefficient : Nat) (exponent : Int) : Decimal :=
  let digits := Nat.toDigits 10 coefficient
  { digits := (digits.reverse.dropWhile (· = '0')).reverse, point := digits.length + exponent }

/-- The shortest decimal that rounds to a positive finite double. -/
def shortest (mantissa shift : Nat) : Decimal :=
  let interval := Interval.ofFinite mantissa shift
  let point := decimalPoint interval.value quartersPerOne
  let onGrid := fun (index : Nat) =>
    let exponent := point - (index + 1)
    (interval.onGrid? (powerOfTen exponent)).map fun coefficient =>
      Decimal.ofCoefficient coefficient exponent
  ((List.range 17).findSome? onGrid).getD { digits := ['0'], point := 1 }

end Stepwise.Number
