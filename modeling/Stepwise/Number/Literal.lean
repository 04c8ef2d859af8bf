import Stepwise.Fault
import Stepwise.Number.Binary64
import Stepwise.Text.Blank
import Stepwise.Text.Digit

/-!
Numbers read from text and integers written as text. A numeral may have blanks around it, a sign, decimal digits of
any script and single low lines between digits; a decimal may also have a point and an exponent. Integers of more
than 4300 digits are neither read nor written.
-/

namespace Stepwise.Number

set_option autoImplicit false

/-- Blanks that may surround a numeral: every blank but the four separators from U+001C. -/
def isNumeralBlank (char : Char) : Bool :=
  Text.isBlank char && !(decide (0x1C ≤ char.toNat) && decide (char.toNat ≤ 0x1F))

/-- A numeral's characters with decimal digits of all scripts replaced by those of ASCII and without the blanks
around it. -/
def plainNumeral (text : String) : List Char :=
  let trimmed := ((text.toList.dropWhile isNumeralBlank).reverse.dropWhile isNumeralBlank).reverse
  trimmed.map fun char =>
    match Text.decimalValue? char with
    | some value => Char.ofNat (0x30 + value)
    | none => char

def splitSign : List Char → Bool × List Char
  | '-' :: rest => (true, rest)
  | '+' :: rest => (false, rest)
  | chars => (false, chars)

/-- The digits in front, single low lines between them left out, and what follows them. -/
def spanDigits : List Char → List Char × List Char
  | char :: '_' :: next :: rest =>
      if char.isDigit && next.isDigit then
        let (digits, after) := spanDigits (next :: rest)
        (char :: digits, after)
      else if char.isDigit then ([char], '_' :: next :: rest)
      else ([], char :: '_' :: next :: rest)
  | char :: rest =>
      if char.isDigit then
        let (digits, after) := spanDigits rest
        (char :: digits, after)
      else ([], char :: rest)
  | [] => ([], [])
termination_by chars => chars.length

def digitsValue (digits : List Char) : Nat :=
  digits.foldl (fun value digit => value * 10 + (digit.toNat - 0x30)) 0

/-- Reads an integer. A numeral that is too long is reported before one that is malformed behind its digits. -/
def readInteger (text : String) : Except Fault Int :=
  let (negative, unsigned) := splitSign (plainNumeral text)
  let (digits, rest) := spanDigits unsigned
  if maxIntegerDigits < digits.length && rest.head? != some '_' then
    .error (.integerLiteralTooLong digits.length)
  else if digits.isEmpty || !rest.isEmpty then .error (.malformedInteger text)
  else
    let value : Int := digitsValue digits
    .ok (if negative then -value else value)

/-- The double nearest to `coefficient * 10 ^ exponent`. Beyond 400 places from the units the result is an infinity
or a zero whatever the digits are. -/
def ofDecimal (negative : Bool) (coefficient : Nat) (exponent : Int) : Float :=
  let length : Int := (Nat.toDigits 10 coefficient).length
  if coefficient = 0 ∨ length + exponent < -400 then pack negative 0 0
  else if 400 < length + exponent then pack negative infinityBits 0
  else if 0 ≤ exponent then nearest negative (coefficient * Nat.pow 10 exponent.toNat) 1
  else nearest negative coefficient (Nat.pow 10 (-exponent).toNat)

/-- The exponent part of a decimal, zero if there is none; nothing if it is malformed. -/
def readExponent : List Char → Option Int
  | [] => some 0
  | mark :: rest =>
      if mark = 'e' ∨ mark = 'E' then
        let (negative, unsigned) := splitSign rest
        let (digits, after) := spanDigits unsigned
        if digits.isEmpty || !after.isEmpty then none
        else
          let value : Int := digitsValue digits
          some (if negative then -value else value)
      else none

/-- The whole digits, the fraction digits and what follows them. The digits on each side of the point are optional,
but not both. -/
def spanDecimal (chars : List Char) : Option (List Char × List Char × List Char) :=
  let (whole, rest) := spanDigits chars
  let (fraction, after) :=
    match rest with
    | '.' :: others => spanDigits others
    | _ => ([], rest)
  if whole.isEmpty && fraction.isEmpty then none else some (whole, fraction, after)

/-- Reads the unsigned part of a double: a name of an infinity, the name of the double that is not a number, or a
decimal. -/
def readMagnitude (negative : Bool) (chars : List Char) : Option Float :=
  let lower := String.ofList (chars.map Char.toLower)
  if lower = "inf" ∨ lower = "infinity" then some (pack negative infinityBits 0)
  else if lower = "nan" then some (Float.ofBits 0x7ff8000000000000)
  else do
    let (whole, fraction, after) ← spanDecimal chars
    let exponent ← readExponent after
    some (ofDecimal negative (digitsValue (whole ++ fraction)) (exponent - fraction.length))

def readDouble (text : String) : Except Fault Float :=
  let (negative, unsigned) := splitSign (plainNumeral text)
  match readMagnitude negative unsigned with
  | some number => .ok number
  | none => .error (.malformedDouble text)

def integerText (integer : Int) : Except Fault String :=
  let digits := Nat.toDigits 10 integer.natAbs
  if maxIntegerDigits < digits.length then .error .integerTextTooLong
  else .ok (String.ofList (if integer < 0 then '-' :: digits else digits))

end Stepwise.Number
