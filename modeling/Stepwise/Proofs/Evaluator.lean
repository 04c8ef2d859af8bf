import Stepwise.Proofs.Machine
import Stepwise.Proofs.Tree

/-!
# Evaluation with its loops and calls left open

The evaluation of expressions takes calls as a parameter. Here the execution of statements takes its loops as a
parameter as well, so that statements can be compared under different ways to run loops and calls: with different
limits, or with none but those that the rounds and the frames themselves are counted against. With the loops and calls
of the machine itself, this is how the machine executes.
-/

namespace Stepwise

set_option autoImplicit false

structure Evaluator extends Calls where
  /-- Runs a loop on a line, given a round of it. -/
  loop : Nat → Machine (Option Completion) → Machine Completion

open Machine

/-- Rounds of a loop, at most so many. What comes after the last of them is given. -/
def Machine.unrolled (rest : Machine Completion) (round : Machine (Option Completion)) : Nat → Machine Completion
  | 0 => rest
  | bound + 1 => do
      match ← round with
      | some completion => return completion
      | none => unrolled rest round bound

/-- The loops of the machine fail after the last round there is room for. -/
theorem Machine.repeated_eq_unrolled (line limit : Nat) (round : Machine (Option Completion)) (bound : Nat) :
    repeated line limit round bound = unrolled (failOn line (.stepLimit limit)) round bound := by
  induction bound with
  | zero => rfl
  | succ bound ih =>
      rw [repeated, unrolled]
      congr 1
      funext outcome
      cases outcome with
      | some completion => rfl
      | none => exact ih

mutual

def Stmt.execBy (context : Context) (evaluator : Evaluator) : Stmt → Machine Completion
  | .declare declaration => do
      declaration.exec context evaluator.toCalls
      return .normal
  | .evaluate line expression => do
      atLine line
      let _ ← expression.eval context evaluator.toCalls
      return .normal
  | .block line body => do
      atLine line
      inScope (Stmt.execAllBy context evaluator body)
  | .ifThen line test consequent => do
      atLine line
      if ← test.evalCondition context evaluator.toCalls then consequent.execBy context evaluator
      else return .normal
  | .ifElse line test consequent alternate => do
      atLine line
      if ← test.evalCondition context evaluator.toCalls then consequent.execBy context evaluator
      else alternate.execBy context evaluator
  | .while_ line test body => do
      atLine line
      evaluator.loop line do
        tick context.options line
        if ← test.evalCondition context evaluator.toCalls then
          let completion ← body.execBy context evaluator
          return afterBody completion
        else return some .normal
  | .doWhile line test body => do
      atLine line
      evaluator.loop line do
        tick context.options line
        let completion ← body.execBy context evaluator
        match afterBody completion with
        | some final => return some final
        | none => if ← test.evalCondition context evaluator.toCalls then return none else return some .normal
  | .for_ line init test update body => do
      atLine line
      inScope do
        match init with
        | some clause => clause.exec context evaluator.toCalls
        | none => pure ()
        evaluator.loop line do
          tick context.options line
          if ← Expr.evalTest context evaluator.toCalls test then
            let completion ← body.execBy context evaluator
            match afterBody completion with
            | some final => return some final
            | none =>
                Expr.evalUpdate context evaluator.toCalls update
                return none
          else return some .normal
  | .return_ line argument => do
      atLine line
      returning context evaluator.toCalls line argument
  | .break_ line => do
      atLine line
      recordJump context line .break_
  | .continue_ line => do
      atLine line
      recordJump context line .continue_

def Stmt.execAllBy (context : Context) (evaluator : Evaluator) : List Stmt → Machine Completion
  | [] => return .normal
  | statement :: others => do
      match ← statement.execBy context evaluator with
      | .normal => Stmt.execAllBy context evaluator others
      | completion => return completion

end

namespace Machine

def enterMethod (context : Context) (evaluator : Evaluator) (method : Method) (className : String)
    (arguments : List Value) : Machine Value := do
  let activation ← openScope globalScope
  bindParams activation method.params arguments
  let frame : Frame := { methodName := method.name, line := method.line, scope := (← get).current, className }
  runFrame frame activation (Stmt.execAllBy context evaluator method.body)

def initialise (context : Context) (calls : Calls) (decl : ClassDecl) : Machine Cell := do
  let outer := (← get).current
  enterScope globalScope
  pushFrame { methodName := "<init>", line := decl.line, scope := outer, className := decl.name }
  let fields ← initialFields context calls [] decl.instanceFields
  enterScope outer
  popFrame
  return .object decl.name fields

def declareAllBy (context : Context) (calls : Calls) : List Declaration → Machine Unit
  | [] => return ()
  | declaration :: others => do
      declaration.exec context calls
      declareAllBy context calls others

def initializeStaticsBy (context : Context) (calls : Calls) : List ClassDecl → Machine Unit
  | [] => return ()
  | decl :: decls => do
      if !decl.staticFields.isEmpty then
        pushFrame { methodName := "<clinit>", line := decl.line, scope := globalScope, className := decl.name }
        declareAllBy context calls decl.staticFields
        popFrame
      initializeStaticsBy context calls decls

end Machine

def Context.executeBy (context : Context) (evaluator : Evaluator) : Machine Unit := do
  declareClasses context.program.classes
  match context.program.entryPoint? with
  | none => fail .noEntryPoint
  | some main =>
      initializeStaticsBy context evaluator.toCalls context.program.classes
      let outer := (← get).current
      let activation ← openScope globalScope
      let frame : Frame := { methodName := "main", line := main.line, scope := outer, className := "Main" }
      let _ ← runFrame frame activation (Stmt.execAllBy context evaluator main.body)

namespace Evaluator

/-- The loops of the machine, with any calls. -/
def ofCalls (context : Context) (calls : Calls) : Evaluator :=
  { calls with loop := Machine.loop context.options }

/-- The evaluator of the machine, with room for so many more frames. -/
def within (context : Context) (room : Nat) : Evaluator :=
  ofCalls context (Calls.within context room)

end Evaluator

section Machine

variable (context : Context) (calls : Calls)

theorem Stmt.execAllBy_of_forall {statements : List Stmt}
    (same : ∀ statement ∈ statements,
      statement.execBy context (.ofCalls context calls) = statement.exec context calls) :
    Stmt.execAllBy context (.ofCalls context calls) statements = Stmt.execAll context calls statements := by
  induction statements with
  | nil =>
      rw [Stmt.execAllBy.eq_def, Stmt.execAll.eq_def]
  | cons statement others ih =>
      have first := same statement List.mem_cons_self
      have rest := ih fun other member => same other (List.mem_cons_of_mem statement member)
      rw [Stmt.execAllBy.eq_def, Stmt.execAll.eq_def]
      dsimp only
      rw [first]
      congr 1
      funext completion
      cases completion with
      | normal => exact rest
      | jump jump => rfl
      | returned value => rfl

theorem Stmt.execBy_ofCalls (statement : Stmt) :
    statement.execBy context (.ofCalls context calls) = statement.exec context calls := by
  induction statement using Stmt.induction with
  | block line body ih =>
      rw [Stmt.execBy.eq_def, Stmt.exec.eq_def]
      dsimp only
      rw [Stmt.execAllBy_of_forall context calls ih]
  | ifThen line test consequent ih =>
      rw [Stmt.execBy.eq_def, Stmt.exec.eq_def]
      dsimp only
      rw [ih]
      rfl
  | ifElse line test consequent alternate first second =>
      rw [Stmt.execBy.eq_def, Stmt.exec.eq_def]
      dsimp only
      rw [first, second]
      rfl
  | while_ line test body ih =>
      rw [Stmt.execBy.eq_def, Stmt.exec.eq_def]
      dsimp only
      rw [ih]
      rfl
  | doWhile line test body ih =>
      rw [Stmt.execBy.eq_def, Stmt.exec.eq_def]
      dsimp only
      rw [ih]
      rfl
  | for_ line init test update body ih =>
      rw [Stmt.execBy.eq_def, Stmt.exec.eq_def]
      dsimp only
      rw [ih]
      rfl
  | break_ line | continue_ line => rw [Stmt.execBy.eq_def, Stmt.exec.eq_def]
  | declare | evaluate | return_ =>
      rw [Stmt.execBy.eq_def, Stmt.exec.eq_def]
      rfl

theorem Stmt.execAllBy_ofCalls (statements : List Stmt) :
    Stmt.execAllBy context (.ofCalls context calls) statements = Stmt.execAll context calls statements :=
  Stmt.execAllBy_of_forall context calls fun statement _ => statement.execBy_ofCalls context calls

theorem Calls.invoke_within_succ (room : Nat) (method : Method) (className : String) (arguments : List Value)
    (line : Nat) :
    (Calls.within context (room + 1)).invoke method className arguments line =
      checkArguments method arguments line >>= fun _ =>
        enterMethod context (.within context room) method className arguments := by
  rw [Calls.within]
  dsimp only
  unfold enterMethod Evaluator.within
  rw [Stmt.execAllBy_ofCalls]

theorem Calls.instantiate_within_succ (room : Nat) (decl : ClassDecl) :
    (Calls.within context (room + 1)).instantiate decl = initialise context (Calls.within context room) decl := by
  rw [Calls.within]
  rfl

theorem Machine.declareAllBy_outermost (declarations : List Declaration) :
    declareAllBy context (Calls.outermost context) declarations = declareAll context declarations := by
  induction declarations with
  | nil => rfl
  | cons declaration others ih => rw [declareAllBy, declareAll, ih]

theorem Machine.initializeStaticsBy_outermost (decls : List ClassDecl) :
    initializeStaticsBy context (Calls.outermost context) decls = initializeStatics context decls := by
  induction decls with
  | nil => rfl
  | cons decl decls ih =>
      rw [initializeStaticsBy, initializeStatics, ih, declareAllBy_outermost]

/-- A run is executed by the evaluator of the machine, with room for all frames but the outermost. -/
theorem Context.executeBy_within :
    context.executeBy (.within context (maxCallDepth - 1)) = context.execute := by
  have statics := initializeStaticsBy_outermost context context.program.classes
  unfold Context.executeBy Context.execute
  congr 1
  funext _
  cases context.program.entryPoint? with
  | none => rfl
  | some main =>
      dsimp only
      unfold Evaluator.within
      rw [Stmt.execAllBy_ofCalls]
      change initializeStaticsBy context (Calls.outermost context) context.program.classes >>= _ = _
      rw [statics]
      rfl

end Machine

end Stepwise
