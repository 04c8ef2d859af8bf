import Stepwise.Machine
import Stepwise.Operator
import Stepwise.Template

/-!
Evaluation of expressions, by recursion on the expression. What leads out of an expression into other code, calling a
method and initialising an object, is given as a parameter. Every operation records one step after its operands;
names, member accesses and literals record none.
-/

namespace Stepwise

set_option autoImplicit false

structure Calls where
  /-- Calls a method of a class with arguments, from a line. -/
  invoke : Method → String → List Value → Nat → Machine Value
  /-- Makes an object of a class that exists. -/
  instantiate : ClassDecl → Machine Cell

inductive ConsoleMethod
  | println | print | printf
  deriving DecidableEq, Repr

def ConsoleMethod.ofName? (name : String) : Option ConsoleMethod :=
  if name = "println" then some .println
  else if name = "print" then some .print
  else if name = "printf" then some .printf
  else none

/-- What a console method writes. Arguments that it has no use for are ignored. -/
def ConsoleMethod.output (heap : Heap) : ConsoleMethod → List Value → Except Failure Text
  | .println, [] => .ok [.ofChar '\n']
  | .print, [] => .ok []
  | .printf, [] => .ok []
  | .println, value :: _ => (· ++ [.ofChar '\n']) <$> value.consoleText heap
  | .print, value :: _ => value.consoleText heap
  | .printf, template :: values => do
      let text ← template.consoleText heap
      Template.format text values heap

/-- The method name of a call on `System.out`, which is recognised by its form and never evaluated. -/
def Expr.consoleMethod? : Expr → Option String
  | .field _ (.field _ (.name _ "System") _ "out") _ method => some method
  | _ => none

namespace Machine

def truth (line : Nat) : Value → Machine Bool
  | .bool value => return value
  | value => failOn line (.conditionKind value.kind)

/-- Whether the left operand of a logical operator decides its result. -/
def decides (operator : String) (left : Bool) : Bool :=
  if operator = "&&" then !left else left

def currentClass : Machine String := do
  match (← get).frames with
  | frame :: _ => return frame.className
  | [] => return "Main"

def writeConsole (options : Options) (line : Nat) (method : ConsoleMethod) (arguments : List Value) :
    Machine Value := do
  let output ← ofOutcome (method.output (← get).heap arguments)
  record options line (some output) none
  return .void

def applyBinary (options : Options) (line : Nat) (operator : String) (left right : Value) : Machine Value := do
  let result ← ofOutcome (Value.binary (← get).heap line operator left right)
  record options line none none
  return result

def applyUnary (options : Options) (line : Nat) (operator : String) (value : Value) : Machine Value := do
  let result ← ofOutcome (value.unary line operator)
  record options line none none
  return result

def store (options : Options) (line : Nat) (slot : Slot) (value : Value) : Machine Value := do
  let stored ← slot.write value
  record options line none none
  return stored

/-- Finishes a compound assignment whose target held a value. -/
def storeCompound (options : Options) (line : Nat) (operator : String) (slot : Slot) (current operand : Value) :
    Machine Value := do
  let result ← ofOutcome (Value.binary (← get).heap line (compoundOperator operator) current operand)
  let narrowed ← ofOutcome (current.narrowedLike result)
  store options line slot narrowed

/-- Counts a variable up or down. The value is that before or after, as the operator stands. -/
def updateVariable (options : Options) (line : Nat) (form : UpdateForm) (operator name : String) :
    Machine Value := do
  let slot := Slot.binding (← get).current name
  let current ← slot.read
  let next ← ofOutcome (current.stepped line operator)
  let stored ← store options line slot next
  return if form = .after then current else stored

def makeArray (options : Options) (line : Nat) (elementType : String) (size : Value) : Machine Value := do
  match size.integral? with
  | none => failOn line (.sizeKind size.kind)
  | some length =>
      if length < 0 then
        let text ← ofOutcome (liftFault (Number.integerText length))
        failOn line (.negativeSize text)
      else allocate options line (.array elementType (Array.replicate length.toNat (Value.default elementType)))

def makeObject (context : Context) (calls : Calls) (line : Nat) (className : String) : Machine Value := do
  match context.program.class? className with
  | none => failOn line (.unknownClass className)
  | some decl =>
      let cell ← calls.instantiate decl
      allocate context.options line cell

/-- The method that a call by name means: one of the class in progress. -/
def methodNamed (context : Context) (line : Nat) (name : String) : Machine (Method × String) := do
  let className ← currentClass
  match (context.program.class? className).bind (·.method? name) with
  | some method => return (method, className)
  | none => failOn line (.unknownMethod name)

/-- The method that a call on a value means: one of the class of the object. -/
def methodOf (context : Context) (line : Nat) (receiver : Value) (name : String) :
    Machine (Method × String) := do
  if receiver.isClass then failOn line .staticCall
  let (_, cell) ← dereference receiver ("invoke '" ++ name ++ "' on") line
  match cell with
  | .array .. => failOn line (.callOnArray name)
  | .object className _ =>
      match (context.program.class? className).bind (·.method? name) with
      | some method => return (method, className)
      | none => failOn line (.missingMethod className name)

def literalChar (raw : String) : Machine Value :=
  match (Text.decodedLiteral raw).toList with
  | [character] => return .char (.ofChar character)
  | _ => raise (.fault (.malformedCharacter raw))

end Machine

open Machine

mutual

def Expr.eval (context : Context) (calls : Calls) (expression : Expr) : Machine Value := do
  mark (.evaluating expression)
  match expression with
  | .int _ value => return .int value
  | .double _ value => return .double value
  | .bool _ value => return .bool value
  | .string _ raw => return .string raw
  | .char _ raw => literalChar raw
  | .null _ => return .null
  | .name _ symbol => lookup symbol
  | .binary line left operator right => do
      let leftValue ← left.eval context calls
      let rightValue ← right.eval context calls
      applyBinary context.options line operator leftValue rightValue
  | .logical line left operator right => do
      let leftValue ← left.eval context calls
      let first ← truth left.line leftValue
      let result ←
        if decides operator first then pure first
        else do
          let rightValue ← right.eval context calls
          truth right.line rightValue
      record context.options line none none
      return .bool result
  | .unary line operator argument => do
      let value ← argument.eval context calls
      applyUnary context.options line operator value
  | .conditional line test consequent alternate => do
      let testValue ← test.eval context calls
      let value ←
        if ← truth test.line testValue then consequent.eval context calls else alternate.eval context calls
      record context.options line none none
      return value
  | .assign line target value => do
      let slot ← target.locate context calls
      let newValue ← value.eval context calls
      store context.options line slot newValue
  | .compound line target operator value => do
      let slot ← target.locate context calls
      let current ← slot.read
      let operand ← value.eval context calls
      storeCompound context.options line operator slot current operand
  | .update line form operator _ symbol => updateVariable context.options line form operator symbol
  | .field line object _ symbol => do
      let container ← object.eval context calls
      let slot ← Slot.ofField line container symbol
      slot.read
  | .index line object position => do
      let container ← object.eval context calls
      let index ← position.eval context calls
      let slot ← Slot.ofIndex line container index
      slot.read
  | .call line callee arguments =>
      match callee.consoleMethod? with
      | some symbol =>
          match ConsoleMethod.ofName? symbol with
          | none => failOn line (.unsupportedConsole symbol)
          | some method => do
              let values ← Expr.evalAll context calls arguments
              writeConsole context.options line method values
      | none =>
          match callee with
          | .name _ symbol => do
              let (method, className) ← methodNamed context line symbol
              let values ← Expr.evalAll context calls arguments
              calls.invoke method className values line
          | .field _ object _ symbol => do
              let receiver ← object.eval context calls
              let (method, className) ← methodOf context line receiver symbol
              let values ← Expr.evalAll context calls arguments
              calls.invoke method className values line
          | _ => failOn line .notCallable
  | .create line className => makeObject context calls line className
  | .newArray line elementType size => do
      let sizeValue ← size.eval context calls
      makeArray context.options line elementType sizeValue
  | .arrayOf line elementType values => do
      let items ← Expr.evalElements context calls elementType values
      allocate context.options line (.array elementType items.toArray)

/-- The slot that an expression denotes. The parts of the expression are evaluated, the slot is not read. -/
def Expr.locate (context : Context) (calls : Calls) : Expr → Machine Slot
  | .name _ symbol => Slot.ofName symbol
  | .field line object _ symbol => do
      let container ← object.eval context calls
      Slot.ofField line container symbol
  | .index line object position => do
      let container ← object.eval context calls
      let index ← position.eval context calls
      Slot.ofIndex line container index
  | other => failOn other.line .invalidTarget

def Expr.evalAll (context : Context) (calls : Calls) : List Expr → Machine (List Value)
  | [] => return []
  | expression :: others => do
      let value ← expression.eval context calls
      let values ← Expr.evalAll context calls others
      return value :: values

/-- Evaluates the elements of an array literal, each converted to the element type before the next is evaluated. -/
def Expr.evalElements (context : Context) (calls : Calls) (elementType : String) :
    List Expr → Machine (List Value)
  | [] => return []
  | expression :: others => do
      let value ← expression.eval context calls
      let stored ← ofOutcome (value.coerce (some elementType))
      let values ← Expr.evalElements context calls elementType others
      return stored :: values

end

def Expr.evalCondition (context : Context) (calls : Calls) (test : Expr) : Machine Bool := do
  let value ← test.eval context calls
  truth test.line value

end Stepwise
