import Stepwise.Value.Text

/-!
Operators on values. A sum of two values that are not both numbers joins their texts. Integral numbers are computed
without bounds, quotient and remainder from the absolute values; as soon as a double is among the operands both are
doubles. Numbers are compared by value, without rounding.
-/

namespace Stepwise

set_option autoImplicit false

inductive Arithmetic
  | add | subtract | multiply | divide | remainder
  deriving DecidableEq, Repr

inductive Comparison
  | less | greater | lessEqual | greaterEqual
  deriving DecidableEq, Repr

inductive BinaryOperator
  | arithmetic (operation : Arithmetic)
  | comparison (relation : Comparison)
  | equal | notEqual
  deriving DecidableEq, Repr

namespace BinaryOperator

def ofSpelling? (spelling : String) : Option BinaryOperator :=
  match spelling with
  | "+" => some (.arithmetic .add)
  | "-" => some (.arithmetic .subtract)
  | "*" => some (.arithmetic .multiply)
  | "/" => some (.arithmetic .divide)
  | "%" => some (.arithmetic .remainder)
  | "==" => some .equal
  | "!=" => some .notEqual
  | "<" => some (.comparison .less)
  | ">" => some (.comparison .greater)
  | "<=" => some (.comparison .lessEqual)
  | ">=" => some (.comparison .greaterEqual)
  | _ => none

end BinaryOperator

/-- The operator that a compound assignment applies, by spelling: all but the last character. -/
def compoundOperator (spelling : String) : String :=
  String.ofList spelling.toList.dropLast

/-- The quotient of the absolute values, with the sign that the operands give it. -/
def signedQuotient (left right : Int) : Int :=
  let magnitude : Int := left.natAbs / right.natAbs
  if left < 0 ↔ right < 0 then magnitude else -magnitude

/-- What the division of the absolute values leaves, with the sign of the dividend. -/
def signedRemainder (left right : Int) : Int :=
  let magnitude : Int := left.natAbs % right.natAbs
  if 0 ≤ left then magnitude else -magnitude

namespace Value

def integralArithmetic (line : Nat) (left right : Int) : Arithmetic → Except Failure Value
  | .add => .ok (int (left + right))
  | .subtract => .ok (int (left - right))
  | .multiply => .ok (int (left * right))
  | .divide =>
      if right = 0 then .error (.onLine line .divisionByZero) else .ok (int (signedQuotient left right))
  | .remainder =>
      if right = 0 then .error (.onLine line .divisionByZero) else .ok (int (signedRemainder left right))

/-- The remainder of two doubles. A divisor of zero leaves no number, an infinite divisor the dividend. -/
def doubleRemainder (left right : Float) : Except Failure Float :=
  match Number.Parts.ofFloat left, Number.Parts.ofFloat right with
  | _, .finite _ 0 _ => .ok (0.0 / 0.0)
  | .nan, _ => .ok (0.0 / 0.0)
  | _, .nan => .ok (0.0 / 0.0)
  | .infinity _, _ => .error (.fault .remainderOfInfinity)
  | .finite .., .infinity _ => .ok left
  | .finite negative mantissa shift, .finite _ divisor divisorShift =>
      .ok (Number.remainder negative (mantissa * Nat.pow 2 shift) (divisor * Nat.pow 2 divisorShift))

def doubleArithmetic (left right : Float) : Arithmetic → Except Failure Value
  | .add => .ok (double (left + right))
  | .subtract => .ok (double (left - right))
  | .multiply => .ok (double (left * right))
  | .divide => .ok (double (left / right))
  | .remainder =>
      match doubleRemainder left right with
      | .ok rest => .ok (double rest)
      | .error failure => .error failure

def numericArithmetic (line : Nat) (operation : Arithmetic) :
    Numeric → Numeric → Except Failure Value
  | .integral left, .integral right => integralArithmetic line left right operation
  | left, right => do
      let leftDouble ← left.toDouble
      let rightDouble ← right.toDouble
      doubleArithmetic leftDouble rightDouble operation

/-- Whether two values are equal. A void value equals nothing. -/
def equal (left right : Value) : Bool :=
  match left.numeric?, right.numeric? with
  | some leftNumber, some rightNumber => leftNumber.place.same rightNumber.place
  | _, _ =>
      match left, right with
      | bool leftValue, bool rightValue => leftValue = rightValue
      | string leftRaw, string rightRaw => leftRaw = rightRaw
      | null, null => true
      | ref leftHandle, ref rightHandle => leftHandle = rightHandle
      | class_ leftName _, class_ rightName _ => leftName = rightName
      | _, _ => false

def compare (relation : Comparison) (left right : Number.Place) : Bool :=
  match relation with
  | .less => left.before right
  | .greater => right.before left
  | .lessEqual => left.notAfter right
  | .greaterEqual => right.notAfter left

def joined (heap : Heap) (left right : Value) : Except Failure Value := do
  let leftText ← left.rawText heap
  let rightText ← right.rawText heap
  return string (leftText ++ rightText)

def applyBinary (heap : Heap) (line : Nat) (spelling : String) (operator : BinaryOperator)
    (left right : Value) : Except Failure Value :=
  match operator, left.numeric?, right.numeric? with
  | .equal, _, _ => .ok (bool (left.equal right))
  | .notEqual, _, _ => .ok (bool (!left.equal right))
  | .arithmetic operation, some leftNumber, some rightNumber =>
      numericArithmetic line operation leftNumber rightNumber
  | .comparison relation, some leftNumber, some rightNumber =>
      .ok (bool (compare relation leftNumber.place rightNumber.place))
  | .arithmetic .add, _, _ => joined heap left right
  | _, _, _ => .error (.onLine line (.operandKinds spelling left.kind right.kind))

def binary (heap : Heap) (line : Nat) (spelling : String) (left right : Value) : Except Failure Value :=
  match BinaryOperator.ofSpelling? spelling with
  | some operator => applyBinary heap line spelling operator left right
  | none => .error (.onLine line (.unsupportedOperator spelling))

def unary (line : Nat) (spelling : String) (value : Value) : Except Failure Value :=
  match spelling with
  | "!" =>
      match value with
      | bool truth => .ok (bool (!truth))
      | _ => .error (.onLine line (.negatedKind value.kind))
  | "-" =>
      match value, value.integral? with
      | double number, _ => .ok (double (-number))
      | _, some integer => .ok (int (-integer))
      | _, none => .error (.onLine line (.minusKind value.kind))
  | _ => .error (.onLine line (.unsupportedUnary spelling))

def stepped (line : Nat) (operator : String) (value : Value) : Except Failure Value :=
  let up := operator = "++"
  match value with
  | double number => .ok (double (if up then number + 1.0 else number + (-1.0)))
  | char point =>
      match CodePoint.ofCode? ((point.code : Int) + if up then 1 else -1) with
      | some next => .ok (char next)
      | none => .error (.fault .charOutOfRange)
  | int integer => .ok (int (integer + if up then 1 else -1))
  | _ => .error (.onLine line (.updateKind operator value.kind))

/-- Casts the result of a compound assignment back to the kind of what the target held. -/
def narrowedLike (current result : Value) : Except Failure Value :=
  match current, result with
  | int _, double _ => coerceTo .integer result
  | char _, int _ => coerceTo .char result
  | _, _ => .ok result

end Value

end Stepwise
