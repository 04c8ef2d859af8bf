import Stepwise.Eval.Expression

/-!
Execution of statements, by recursion on the statement. A statement completes normally, by a jump out of or to the
next round of a loop, or by a return with a value. A loop repeats a round; since every round is counted against the
limit of the run, no loop has more rounds than that.
-/

namespace Stepwise

set_option autoImplicit false

inductive Completion
  | normal
  | jump (jump : Jump)
  | returned (value : Value)
  deriving DecidableEq, Repr

namespace Machine

/-- Repeats a round until it tells how the loop completes, at most so many times. -/
def repeated (line limit : Nat) (round : Machine (Option Completion)) : Nat → Machine Completion
  | 0 => failOn line (.stepLimit limit)
  | bound + 1 => do
      match ← round with
      | some completion => return completion
      | none => repeated line limit round bound

/-- Runs a loop. A round that is within the limit of the run is always within the bound. -/
def loop (options : Options) (line : Nat) (round : Machine (Option Completion)) : Machine Completion :=
  repeated line options.maxSteps round (options.maxSteps + 1)

/-- How a loop completes after its body did, if it does. -/
def afterBody : Completion → Option Completion
  | .jump .break_ => some .normal
  | .returned value => some (.returned value)
  | .normal => none
  | .jump .continue_ => none

end Machine

open Machine

/-- The value of a declaration. An array literal takes the element type from the declared type. -/
def Declaration.eval (context : Context) (calls : Calls) (declaration : Declaration) : Machine Value :=
  match declaration.value with
  | none => return Value.default declaration.typeName
  | some (.arrayOf line elementType values) => do
      let declaredType :=
        if declaration.typeName.endsWith "[]" then String.ofList (declaration.typeName.toList.dropLast.dropLast)
        else elementType
      let items ← Expr.evalElements context calls declaredType values
      allocate context.options line (.array declaredType items.toArray)
  | some value => value.eval context calls

def Declaration.exec (context : Context) (calls : Calls) (declaration : Declaration) : Machine Unit := do
  atLine declaration.line
  let value ← declaration.eval context calls
  declareIn (← get).current declaration.name value (some declaration.typeName)
  noteDeclared declaration.name
  record context.options declaration.line none none

def ForInit.exec (context : Context) (calls : Calls) : ForInit → Machine Unit
  | .declare declaration => declaration.exec context calls
  | .evaluate line expression => do
      atLine line
      let _ ← expression.eval context calls

def Expr.evalTest (context : Context) (calls : Calls) : Option Expr → Machine Bool
  | some test => test.evalCondition context calls
  | none => return true

def Expr.evalUpdate (context : Context) (calls : Calls) : Option Expr → Machine Unit
  | some expression => do
      let _ ← expression.eval context calls
  | none => return ()

def Machine.recordJump (context : Context) (line : Nat) (jump : Jump) : Machine Completion := do
  record context.options line none none
  return .jump jump

def Machine.returning (context : Context) (calls : Calls) (line : Nat) (argument : Option Expr) :
    Machine Completion := do
  let value ←
    match argument with
    | some expression => expression.eval context calls
    | none => pure .void
  record context.options line none (some .return_)
  return .returned value

mutual

def Stmt.exec (context : Context) (calls : Calls) : Stmt → Machine Completion
  | .declare declaration => do
      declaration.exec context calls
      return .normal
  | .evaluate line expression => do
      atLine line
      let _ ← expression.eval context calls
      return .normal
  | .block line body => do
      atLine line
      inScope (Stmt.execAll context calls body)
  | .ifThen line test consequent => do
      atLine line
      if ← test.evalCondition context calls then consequent.exec context calls else return .normal
  | .ifElse line test consequent alternate => do
      atLine line
      if ← test.evalCondition context calls then consequent.exec context calls
      else alternate.exec context calls
  | .while_ line test body => do
      atLine line
      loop context.options line do
        tick context.options line
        if ← test.evalCondition context calls then
          let completion ← body.exec context calls
          return afterBody completion
        else return some .normal
  | .doWhile line test body => do
      atLine line
      loop context.options line do
        tick context.options line
        let completion ← body.exec context calls
        match afterBody completion with
        | some final => return some final
        | none => if ← test.evalCondition context calls then return none else return some .normal
  | .for_ line init test update body => do
      atLine line
      inScope do
        match init with
        | some clause => clause.exec context calls
        | none => pure ()
        loop context.options line do
          tick context.options line
          if ← Expr.evalTest context calls test then
            let completion ← body.exec context calls
            match afterBody completion with
            | some final => return some final
            | none =>
                Expr.evalUpdate context calls update
                return none
          else return some .normal
  | .return_ line argument => do
      atLine line
      returning context calls line argument
  | .break_ line => do
      atLine line
      recordJump context line .break_
  | .continue_ line => do
      atLine line
      recordJump context line .continue_

/-- Executes statements in order, up to the first that does not complete normally. -/
def Stmt.execAll (context : Context) (calls : Calls) : List Stmt → Machine Completion
  | [] => return .normal
  | statement :: others => do
      match ← statement.exec context calls with
      | .normal => Stmt.execAll context calls others
      | completion => return completion

end

end Stepwise
