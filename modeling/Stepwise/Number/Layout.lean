import Stepwise.Number.Shortest

/-!
Doubles as text. The digits are those of the shortest decimal; a layout says which decimal exponents are written
positionally and how the others show their exponent. Fixed places show the exact value rounded to a number of
decimal places.
-/

namespace Stepwise.Number

set_option autoImplicit false

structure Layout where
  /-- The least decimal exponent that is written positionally. -/
  lowest : Int
  /-- The greatest decimal exponent that is written positionally. -/
  highest : Int
  mark : Char
  /-- Whether a mantissa of one digit still has a fraction. -/
  fractionAlways : Bool
  /-- Whether a plus sign stands before an exponent that is not negative. -/
  plusSign : Bool
  /-- The least number of digits of an exponent. -/
  exponentWidth : Nat
  deriving DecidableEq, Repr

/-- Console text is positional from a thousandth up to below ten million. -/
def Layout.console : Layout :=
  { lowest := -3, highest := 6, mark := 'E', fractionAlways := true, plusSign := false, exponentWidth := 1 }

/-- A number of a JSON document is positional from a ten-thousandth up to below ten to the sixteenth. -/
def Layout.document : Layout :=
  { lowest := -4, highest := 15, mark := 'e', fractionAlways := false, plusSign := true, exponentWidth := 2 }

/-- The digits with the point at its place, and at least one digit on each side of it. -/
def Decimal.positional (decimal : Decimal) : List Char :=
  let length : Int := decimal.digits.length
  if decimal.point ≤ 0 then
    '0' :: '.' :: (List.replicate (-decimal.point).toNat '0' ++ decimal.digits)
  else if length ≤ decimal.point then
    decimal.digits ++ List.replicate (decimal.point - length).toNat '0' ++ ['.', '0']
  else
    decimal.digits.take decimal.point.toNat ++ '.' :: decimal.digits.drop decimal.point.toNat

def Layout.exponentText (layout : Layout) (exponent : Int) : List Char :=
  let digits := Nat.toDigits 10 exponent.natAbs
  let padded := List.replicate (layout.exponentWidth - digits.length) '0' ++ digits
  let sign := if exponent < 0 then ['-'] else if layout.plusSign then ['+'] else []
  layout.mark :: (sign ++ padded)

/-- One digit before the point, the others after it, and the exponent. -/
def Layout.scientific (layout : Layout) (decimal : Decimal) : List Char :=
  let fraction :=
    match decimal.digits.drop 1 with
    | [] => if layout.fractionAlways then ['.', '0'] else []
    | rest => '.' :: rest
  decimal.digits.take 1 ++ fraction ++ layout.exponentText (decimal.point - 1)

def Layout.magnitude (layout : Layout) (decimal : Decimal) : List Char :=
  if layout.lowest ≤ decimal.point - 1 ∧ decimal.point - 1 ≤ layout.highest then decimal.positional
  else layout.scientific decimal

def Layout.finite (layout : Layout) (negative : Bool) (mantissa shift : Nat) : List Char :=
  let sign := if negative then ['-'] else []
  if mantissa = 0 then sign ++ ['0', '.', '0']
  else sign ++ layout.magnitude (shortest mantissa shift)

def consoleText (number : Float) : String :=
  match Parts.ofFloat number with
  | .nan => "NaN"
  | .infinity negative => if negative then "-Infinity" else "Infinity"
  | .finite negative mantissa shift => String.ofList (Layout.console.finite negative mantissa shift)

def documentText (number : Float) : String :=
  match Parts.ofFloat number with
  | .nan => "NaN"
  | .infinity negative => if negative then "-Infinity" else "Infinity"
  | .finite negative mantissa shift => String.ofList (Layout.document.finite negative mantissa shift)

/-- The digits of a natural number with the point before the last `places` of them. -/
def fixedDigits (places scaled : Nat) : List Char :=
  let digits := Nat.toDigits 10 scaled
  let padded := List.replicate (places + 1 - digits.length) '0' ++ digits
  let whole := padded.take (padded.length - places)
  if places = 0 then whole else whole ++ '.' :: padded.drop (padded.length - places)

/-- The value of a double rounded to a number of decimal places, a tie going to the even digit. -/
def fixedText (places : Nat) (number : Float) : String :=
  match Parts.ofFloat number with
  | .nan => "nan"
  | .infinity negative => if negative then "-inf" else "inf"
  | .finite negative mantissa shift =>
      let scaled := roundHalfEven (mantissa * Nat.pow 2 shift * Nat.pow 10 places) unitsPerOne
      String.ofList ((if negative then ['-'] else []) ++ fixedDigits places scaled)

end Stepwise.Number
