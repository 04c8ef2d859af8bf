import Stepwise.Text.Quoted

/-!
Faults: limits of the number and text representations that a program can run into but that are not errors of the
language it is written in. They carry no line, and no part of a run handles them.
-/

namespace Stepwise

set_option autoImplicit false

inductive Fault
  /-- Stepping a character past the first or the last code point. -/
  | charOutOfRange
  /-- The remainder of an infinite dividend. -/
  | remainderOfInfinity
  /-- An integer that no finite double is nearest to. -/
  | integerTooLargeForDouble
  /-- An integer with more digits than are ever written out. -/
  | integerTextTooLong
  /-- An integer literal with more digits than are ever read. -/
  | integerLiteralTooLong (digits : Nat)
  | malformedInteger (text : String)
  | malformedDouble (text : String)
  /-- More decimal places than a format directive admits. -/
  | tooManyPlaces (places : Nat)
  /-- A character literal that does not denote one character. -/
  | malformedCharacter (text : String)
  /-- A handle of a scope or of a heap cell, or a place in a list of tokens, that does not exist. -/
  | missingHandle
  deriving DecidableEq, Repr

/-- The greatest number of digits of an integer that is read or written as text. -/
def maxIntegerDigits : Nat := 4300

/-- The greatest number of decimal places that are laid out. -/
def maxPlaces : Nat := 2147483647

def Fault.message : Fault → String
  | .charOutOfRange => "chr() arg not in range(0x110000)"
  | .remainderOfInfinity => "math domain error"
  | .integerTooLargeForDouble => "int too large to convert to float"
  | .integerTextTooLong =>
      "Exceeds the limit (4300 digits) for integer string conversion; " ++
        "use sys.set_int_max_str_digits() to increase the limit"
  | .integerLiteralTooLong digits =>
      "Exceeds the limit (4300 digits) for integer string conversion: value has " ++ toString digits ++
        " digits; use sys.set_int_max_str_digits() to increase the limit"
  | .malformedInteger text =>
      "invalid literal for int() with base 10: " ++ String.ofList ((Text.quoted text).toList.take 200)
  | .malformedDouble text => "could not convert string to float: " ++ Text.quoted text
  | .tooManyPlaces places =>
      if places < Nat.pow 2 63 then "precision too big" else "Too many decimal digits in format string"
  | .malformedCharacter text => "malformed character literal: " ++ Text.quoted text
  | .missingHandle => "list index out of range"

end Stepwise
