import Stepwise.Fault
import Stepwise.Value

/-!
Issues: the errors of a run, each with its wording. An issue may name the line it is about; one that does not is
attributed by the run to the statement in progress. A failure is an issue or a fault.
-/

namespace Stepwise

set_option autoImplicit false

inductive IssueFamily
  | general | operand | duplicate | unknown | entryPoint | stepLimit
  deriving DecidableEq, Repr

inductive Jump
  | break_ | continue_
  deriving DecidableEq, Repr

def Jump.word : Jump → String
  | break_ => "break"
  | continue_ => "continue"

inductive Issue
  | outsideLoop (jump : Jump)
  | argumentCount (method : String) (expected given : Nat)
  | stackOverflow
  | unknownClass (name : String)
  | negativeSize (size : String)
  | outOfBounds (position : String) (length : Nat)
  | unknownMethod (name : String)
  | missingMethod (className name : String)
  | divisionByZero
  | noSteps
  | duplicateName (name : String)
  | unknownName (name : String)
  | noEntryPoint
  | stepLimit (limit : Nat)
  | numberExpected (kind : Kind)
  | infiniteInteger
  | lengthIsFinal
  | unassignedField (field className : String)
  | conditionKind (kind : Kind)
  | updateKind (operator : String) (kind : Kind)
  | sizeKind (kind : Kind)
  | indexKind (kind : Kind)
  | indexIntoObject (className : String)
  | noArrayMember (name : String)
  | invalidTarget
  | onNull (action : String)
  | onValue (action : String) (kind : Kind)
  | staticCall
  | callOnArray (name : String)
  | notCallable
  | unsupportedConsole (method : String)
  | operandKinds (operator : String) (left right : Kind)
  | unsupportedOperator (operator : String)
  | negatedKind (kind : Kind)
  | minusKind (kind : Kind)
  | unsupportedUnary (operator : String)
  deriving DecidableEq, Repr

namespace Issue

def family : Issue → IssueFamily
  | outsideLoop _ | argumentCount .. | stackOverflow | unknownClass _ | negativeSize _ | outOfBounds ..
  | unknownMethod _ | missingMethod .. | divisionByZero | noSteps => .general
  | duplicateName _ => .duplicate
  | unknownName _ => .unknown
  | noEntryPoint => .entryPoint
  | stepLimit _ => .stepLimit
  | _ => .operand

def message : Issue → String
  | outsideLoop jump => "'" ++ jump.word ++ "' used outside of a loop."
  | argumentCount method expected given =>
      "Method '" ++ method ++ "' expected " ++ toString expected ++ " argument(s), got " ++ toString given ++ "."
  | stackOverflow => "Call stack overflow (StackOverflowError)."
  | unknownClass name => "Unknown class '" ++ name ++ "'."
  | negativeSize size => "Negative array size: " ++ size ++ "."
  | outOfBounds position length =>
      "Index " ++ position ++ " out of bounds for length " ++ toString length
  | unknownMethod name => "Unknown method '" ++ name ++ "'."
  | missingMethod className name => "Class '" ++ className ++ "' has no method '" ++ name ++ "'."
  | divisionByZero => "Division by zero."
  | noSteps => "Execution produced no steps."
  | duplicateName name => "Variable \"" ++ name ++ "\" has already been declared."
  | unknownName name => "Variable \"" ++ name ++ "\" not found."
  | noEntryPoint => "Main.main method not found."
  | stepLimit limit =>
      "Execution step limit reached (" ++ toString limit ++ "). The program may contain an infinite loop."
  | numberExpected kind => "Expected a number, got " ++ kind.label ++ "."
  | infiniteInteger => "Cannot convert an infinite double to int."
  | lengthIsFinal => "Cannot assign to the final field 'length' of an array."
  | unassignedField field className =>
      "Field '" ++ field ++ "' of " ++ className ++ " has not been assigned."
  | conditionKind kind => "Condition must be a boolean, got " ++ kind.label ++ "."
  | updateKind operator kind =>
      "Operator '" ++ operator ++ "' requires a number, got " ++ kind.label ++ "."
  | sizeKind kind => "Array size must be an int, got " ++ kind.label ++ "."
  | indexKind kind => "Array index must be an int, got " ++ kind.label ++ "."
  | indexIntoObject className => "Cannot index into a " ++ className ++ " object."
  | noArrayMember name => "Arrays have no member '" ++ name ++ "'."
  | invalidTarget => "Invalid assignment target."
  | onNull action => "Cannot " ++ action ++ " null."
  | onValue action kind => "Cannot " ++ action ++ " a value of type " ++ kind.label ++ "."
  | staticCall => "Static calls through a class name are not supported."
  | callOnArray name => "Cannot call method '" ++ name ++ "' on an array."
  | notCallable => "Expression is not callable."
  | unsupportedConsole method => "System.out." ++ method ++ " is not supported."
  | operandKinds operator left right =>
      "Operator '" ++ operator ++ "' cannot be applied to " ++ left.label ++ " and " ++ right.label ++ "."
  | unsupportedOperator operator => "Unsupported operator: " ++ operator
  | negatedKind kind => "Operator '!' requires a boolean, got " ++ kind.label ++ "."
  | minusKind kind => "Operator '-' requires a number, got " ++ kind.label ++ "."
  | unsupportedUnary operator => "Unsupported unary operator: " ++ operator

end Issue

inductive Failure
  | issue (issue : Issue) (line : Option Nat)
  | fault (fault : Fault)
  deriving DecidableEq, Repr

namespace Failure

def bare (cause : Issue) : Failure := .issue cause none

def onLine (line : Nat) (cause : Issue) : Failure := .issue cause (some line)

/-- The failure with a line for an issue that has none. The line zero stands for no line. -/
def attributed (current : Nat) : Failure → Failure
  | .issue cause none => .issue cause (if current = 0 then none else some current)
  | failure => failure

def message : Failure → String
  | .issue cause _ => cause.message
  | .fault cause => cause.message

end Failure

def liftFault {α : Type} (outcome : Except Fault α) : Except Failure α :=
  match outcome with
  | .ok value => .ok value
  | .error fault => .error (.fault fault)

end Stepwise
