import Stepwise.Value.Text

/-!
Format templates. A directive is a percent sign, an optional number of decimal places with a point before it, and one
of five letters; everything else is plain text, also a percent sign that begins no directive. Directives that show an
argument take the arguments in order; one that finds none left shows nothing, and arguments left over are ignored.
-/

namespace Stepwise

set_option autoImplicit false

inductive Conversion
  | integer | fixed | text | newline | percent
  deriving DecidableEq, Repr

def Conversion.ofChar? : Char → Option Conversion
  | 'd' => some .integer
  | 'f' => some .fixed
  | 's' => some .text
  | 'n' => some .newline
  | '%' => some .percent
  | _ => none

def Conversion.consumes : Conversion → Bool
  | .integer | .fixed | .text => true
  | .newline | .percent => false

namespace Template

inductive Piece
  | plain (point : CodePoint)
  | directive (places : Option String) (conversion : Conversion)
  deriving DecidableEq, Repr

def percent : CodePoint := .ofChar '%'

def dot : CodePoint := .ofChar '.'

def isPlacesDigit (point : CodePoint) : Bool := point.char?.any fun char => (Text.decimalValue? char).isSome

/-- The number of decimal places that digits behind a point stand for, and the number of code points it takes. -/
def placesOf : Text → Option String × Nat
  | [] => (none, 0)
  | digits => (some (String.ofList (digits.filterMap CodePoint.char?)), digits.length + 1)

/-- The number of decimal places at the front, and the number of code points it takes. -/
def places : Text → Option String × Nat
  | [] => (none, 0)
  | point :: rest => if point = dot then placesOf (rest.takeWhile isPlacesDigit) else (none, 0)

/-- The directive behind a percent sign, and the number of code points it takes. -/
def directive? (text : Text) : Option (Piece × Nat) :=
  let (count, length) := places text
  match text.drop length with
  | [] => none
  | point :: _ =>
      (point.char?.bind Conversion.ofChar?).map fun conversion => (.directive count conversion, length + 1)

def pieces : Text → List Piece
  | [] => []
  | point :: rest =>
      if point = percent then
        match directive? rest with
        | some (piece, length) => piece :: pieces (rest.drop length)
        | none => .plain point :: pieces rest
      else .plain point :: pieces rest
termination_by text => text.length

/-- Shows an argument with decimal places, six of them if the directive does not say. -/
def fixedArgument (count : Option String) (number : Numeric) : Except Failure String := do
  let digits ←
    match count with
    | some text => liftFault (Number.readInteger text)
    | none => .ok 6
  let double ← number.toDouble
  if maxPlaces < digits.toNat then .error (.fault (.tooManyPlaces digits.toNat))
  else .ok (Number.fixedText digits.toNat double)

/-- Shows an argument under a directive. Where the argument does not suit the directive its plain text is shown. -/
def argument (heap : Heap) (count : Option String) (conversion : Conversion) (value : Value) :
    Except Failure Text :=
  match conversion, value.numeric?, value.integral? with
  | .fixed, some number, _ => Text.ofString <$> fixedArgument count number
  | .integer, _, some integer => Text.ofString <$> liftFault (Number.integerText integer)
  | _, _, _ => value.text heap

def fill (heap : Heap) : List Piece → List Value → Except Failure Text
  | [], _ => .ok []
  | .plain point :: rest, values => ([point] ++ ·) <$> fill heap rest values
  | .directive _ .newline :: rest, values => ([.ofChar '\n'] ++ ·) <$> fill heap rest values
  | .directive _ .percent :: rest, values => ([percent] ++ ·) <$> fill heap rest values
  | .directive _ _ :: rest, [] => fill heap rest []
  | .directive count conversion :: rest, value :: values =>
      match argument heap count conversion value with
      | .error failure => .error failure
      | .ok text => (text ++ ·) <$> fill heap rest values

def format (template : Text) (values : List Value) (heap : Heap) : Except Failure Text :=
  fill heap (pieces template) values

end Template

end Stepwise
