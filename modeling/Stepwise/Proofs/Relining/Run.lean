import Stepwise.Proofs.Relining.Operations
import Stepwise.Proofs.Evaluator

/-!
# Running carries lines along

A program on other lines, run in a state on other lines, does what the program does, on those other lines: it records
the same steps, or fails for the same cause. This is shown for expressions and for statements by induction over them,
with calls that carry lines along as well, then for calls by induction over the room that is left for frames, and then
for whole runs.
-/

namespace Stepwise

set_option autoImplicit false

variable {move : Nat → Nat} {α β : Type}

open Machine

/-- Calls from other lines, of methods on other lines, do the same. -/
structure Calls.Follow (move : Nat → Nat) (first second : Calls) : Prop where
  invoke : ∀ method className arguments line,
    Machine.Follows move id (first.invoke method className arguments line)
      (second.invoke (method.relined move) className arguments (move line))
  instantiate : ∀ decl, Machine.Follows move id (first.instantiate decl) (second.instantiate (decl.relined move))

theorem Expr.consoleMethod?_relined (callee : Expr) : (callee.relined move).consoleMethod? = callee.consoleMethod? := by
  cases callee with
  | field line object nameLine method =>
      cases object with
      | field inside system outLine out =>
          cases system with
          | name systemLine symbol =>
              simp only [relined]
              unfold consoleMethod?
              split <;> simp_all
          | _ => rfl
      | _ => rfl
  | _ => rfl

section Expressions

variable {context : Context} {first second : Calls}

def Expr.Evaluates (move : Nat → Nat) (context : Context) (first second : Calls) (expression : Expr) : Prop :=
  Machine.Follows move id (expression.eval context first)
    ((expression.relined move).eval (context.relined move) second)

/-- What the induction over an expression carries. The object of a member access is evaluated by itself when the
access is what a call calls. -/
structure Expr.Treats (move : Nat → Nat) (context : Context) (first second : Calls) (expression : Expr) : Prop where
  evaluates : expression.Evaluates move context first second
  locates : Machine.Follows move id (expression.locate context first)
    ((expression.relined move).locate (context.relined move) second)
  object : ∀ line object nameLine name, expression = .field line object nameLine name →
    object.Evaluates move context first second

theorem Expr.Evaluates.of_body {expression : Expr} {body bodySecond : Machine Value}
    (opens : expression.eval context first = mark (.evaluating expression) >>= fun _ => body)
    (opensSecond : (expression.relined move).eval (context.relined move) second =
      mark (.evaluating (expression.relined move)) >>= fun _ => bodySecond)
    (follows : Machine.Follows move id body bodySecond) : expression.Evaluates move context first second := by
  unfold Expr.Evaluates
  rw [opens, opensSecond]
  exact Carrier.Follows.mark.bind fun _ => follows

theorem Expr.Treats.of_evaluates {expression : Expr} (evaluates : expression.Evaluates move context first second)
    (refused : expression.locate context first = failOn expression.line .invalidTarget)
    (refusedSecond : (expression.relined move).locate (context.relined move) second =
      failOn (expression.relined move).line .invalidTarget)
    (other : expression.isTarget = false) : expression.Treats move context first second := by
  refine ⟨evaluates, ?_, ?_⟩
  · rw [refused, refusedSecond, Expr.line_relined]
    exact follows_failOn _ _
  · rintro line object nameLine name rfl
    cases other

theorem follows_evalAll {expressions : List Expr}
    (evaluated : ∀ expression ∈ expressions, expression.Evaluates move context first second) :
    Machine.Follows move id (Expr.evalAll context first expressions)
      (Expr.evalAll (context.relined move) second (Expr.relinedAll move expressions)) := by
  induction expressions with
  | nil =>
      rw [Expr.relinedAll, Expr.evalAll.eq_1, Expr.evalAll.eq_1]
      exact .pure rfl
  | cons expression others ih =>
      rw [Expr.relinedAll, Expr.evalAll.eq_2, Expr.evalAll.eq_2]
      refine Carrier.Follows.bind (evaluated expression List.mem_cons_self) fun value => ?_
      exact (ih fun other member => evaluated other (List.mem_cons_of_mem _ member)).bind fun values => .pure rfl

theorem follows_evalElements {expressions : List Expr} (elementType : String)
    (evaluated : ∀ expression ∈ expressions, expression.Evaluates move context first second) :
    Machine.Follows move id (Expr.evalElements context first elementType expressions)
      (Expr.evalElements (context.relined move) second elementType (Expr.relinedAll move expressions)) := by
  induction expressions with
  | nil =>
      rw [Expr.relinedAll, Expr.evalElements.eq_1, Expr.evalElements.eq_1]
      exact .pure rfl
  | cons expression others ih =>
      rw [Expr.relinedAll, Expr.evalElements.eq_2, Expr.evalElements.eq_2]
      refine Carrier.Follows.bind (evaluated expression List.mem_cons_self) fun value => ?_
      refine Carrier.Follows.bind (.unlined (value.unlined_coerce _)) fun stored => ?_
      exact (ih fun other member => evaluated other (List.mem_cons_of_mem _ member)).bind fun values => .pure rfl

theorem follows_arrayOf {values : List Expr} (line : Nat) (elementType : String)
    (evaluated : ∀ value ∈ values, value.Evaluates move context first second) :
    Machine.Follows move id
      (Expr.evalElements context first elementType values >>= fun items =>
        allocate context.options line (.array elementType items.toArray))
      (Expr.evalElements (context.relined move) second elementType (Expr.relinedAll move values) >>= fun items =>
        allocate context.options (move line) (.array elementType items.toArray)) :=
  (follows_evalElements elementType evaluated).bind fun _ => follows_allocate _ line _

variable (calls : Calls.Follow move first second)
include calls

theorem follows_arguments {arguments : List Expr} (line : Nat) (method : Method) (className : String)
    (evaluated : ∀ argument ∈ arguments, argument.Evaluates move context first second) :
    Machine.Follows move id
      (Expr.evalAll context first arguments >>= fun values => first.invoke method className values line)
      (Expr.evalAll (context.relined move) second (Expr.relinedAll move arguments) >>= fun values =>
        second.invoke (method.relined move) className values (move line)) :=
  (follows_evalAll evaluated).bind fun values => calls.invoke method className values line

theorem follows_makeObject (line : Nat) (className : String) :
    Machine.Follows move id (makeObject context first line className)
      (makeObject (context.relined move) second (move line) className) := by
  unfold makeObject
  dsimp only [Context.relined]
  rw [context.program.class?_relined]
  cases context.program.class? className with
  | none => exact follows_failOn line _
  | some decl => exact (calls.instantiate decl).bind fun cell => follows_allocate context.options line cell

theorem evaluates_call {callee : Expr} {arguments : List Expr} (line : Nat)
    (receiver : ∀ fieldLine object nameLine name, callee = .field fieldLine object nameLine name →
      object.Evaluates move context first second)
    (evaluated : ∀ argument ∈ arguments, argument.Evaluates move context first second) :
    (Expr.call line callee arguments).Evaluates move context first second := by
  apply Expr.Evaluates.of_body (Expr.eval.eq_def ..) (Expr.eval.eq_def ..)
  rw [Expr.relined]
  dsimp only
  rw [callee.consoleMethod?_relined]
  cases callee.consoleMethod? with
  | some symbol =>
      dsimp only
      cases ConsoleMethod.ofName? symbol with
      | none => exact follows_failOn line _
      | some method =>
          exact (follows_evalAll evaluated).bind fun values => follows_writeConsole context.options line method values
  | none =>
      cases callee with
      | name nameLine symbol =>
          rw [Expr.relined]
          refine (follows_methodNamed context line symbol).bind fun found => ?_
          exact follows_arguments calls line found.1 found.2 evaluated
      | field fieldLine object nameLine symbol =>
          rw [Expr.relined]
          refine Carrier.Follows.bind (receiver fieldLine object nameLine symbol rfl) fun value => ?_
          refine (follows_methodOf context line value symbol).bind fun found => ?_
          exact follows_arguments calls line found.1 found.2 evaluated
      | _ =>
          rw [Expr.relined]
          exact follows_failOn line _

omit calls in
theorem evaluates_logical {left right : Expr} (line : Nat) (operator : String)
    (leftEvaluated : left.Evaluates move context first second)
    (rightEvaluated : right.Evaluates move context first second) :
    (Expr.logical line left operator right).Evaluates move context first second := by
  apply Expr.Evaluates.of_body (Expr.eval.eq_def ..) (Expr.eval.eq_def ..)
  rw [Expr.relined]
  dsimp only
  rw [left.line_relined, right.line_relined]
  refine Carrier.Follows.bind leftEvaluated fun leftValue => ?_
  refine (follows_truth left.line leftValue).bind fun decided => ?_
  have finish : ∀ result : Bool, Machine.Follows move id
      (record context.options line none none >>= fun _ => Pure.pure (Value.bool result))
      (record context.options (move line) none none >>= fun _ => Pure.pure (Value.bool result)) :=
    fun result => follows_record_yield context.options line none none
  refine .branch (finish decided) ?_
  refine Carrier.Follows.bind rightEvaluated fun rightValue => ?_
  exact (follows_truth right.line rightValue).bind finish

omit calls in
theorem evaluates_conditional {test consequent alternate : Expr} (line : Nat)
    (tested : test.Evaluates move context first second) (consequence : consequent.Evaluates move context first second)
    (alternative : alternate.Evaluates move context first second) :
    (Expr.conditional line test consequent alternate).Evaluates move context first second := by
  apply Expr.Evaluates.of_body (Expr.eval.eq_def ..) (Expr.eval.eq_def ..)
  rw [Expr.relined]
  dsimp only
  rw [test.line_relined]
  refine Carrier.Follows.bind tested fun testValue => ?_
  refine (follows_truth test.line testValue).bind fun decided => ?_
  have finish : ∀ value : Value, Machine.Follows move id
      (record context.options line none none >>= fun _ => Pure.pure value)
      (record context.options (move line) none none >>= fun _ => Pure.pure value) :=
    fun value => follows_record_yield context.options line none none
  exact .branch (Carrier.Follows.bind consequence finish) (Carrier.Follows.bind alternative finish)

omit calls in
theorem treats_field {object : Expr} (line nameLine : Nat) (name : String)
    (evaluated : object.Evaluates move context first second) :
    (Expr.field line object nameLine name).Treats move context first second := by
  constructor
  · apply Expr.Evaluates.of_body (Expr.eval.eq_def ..) (Expr.eval.eq_def ..)
    rw [Expr.relined]
    refine Carrier.Follows.bind evaluated fun container => ?_
    exact (follows_ofField line container name).bind fun slot => follows_read slot
  · rw [Expr.relined, Expr.locate.eq_2, Expr.locate.eq_2]
    exact Carrier.Follows.bind evaluated fun container => follows_ofField line container name
  · intro _ other _ _ same
    cases same
    exact evaluated

omit calls in
theorem treats_index {object position : Expr} (line : Nat) (evaluated : object.Evaluates move context first second)
    (numbered : position.Evaluates move context first second) :
    (Expr.index line object position).Treats move context first second := by
  constructor
  · apply Expr.Evaluates.of_body (Expr.eval.eq_def ..) (Expr.eval.eq_def ..)
    rw [Expr.relined]
    refine Carrier.Follows.bind evaluated fun container => ?_
    refine Carrier.Follows.bind numbered fun index => ?_
    exact (follows_ofIndex line container index).bind fun slot => follows_read slot
  · rw [Expr.relined, Expr.locate.eq_3, Expr.locate.eq_3]
    refine Carrier.Follows.bind evaluated fun container => ?_
    exact Carrier.Follows.bind numbered fun index => follows_ofIndex line container index
  · simp

/-- Every expression carries lines along. -/
theorem treats_expression (expression : Expr) : expression.Treats move context first second := by
  -- One case for each form of expression; every form but names, fields and elements is refused as a target.
  induction expression using Expr.induction with
  | int | double | bool | string | null =>
      refine .of_evaluates ?_ (Expr.locate.eq_def ..) (by rw [Expr.relined]; rfl) rfl
      apply Expr.Evaluates.of_body (Expr.eval.eq_def ..) (Expr.eval.eq_def ..)
      rw [Expr.relined]
      exact .pure rfl
  | char line raw =>
      refine .of_evaluates ?_ (Expr.locate.eq_def ..) (by rw [Expr.relined]; rfl) rfl
      apply Expr.Evaluates.of_body (Expr.eval.eq_def ..) (Expr.eval.eq_def ..)
      rw [Expr.relined]
      exact follows_literalChar raw
  | name line symbol =>
      constructor
      · apply Expr.Evaluates.of_body (Expr.eval.eq_def ..) (Expr.eval.eq_def ..)
        rw [Expr.relined]
        exact follows_lookup symbol
      · rw [Expr.relined, Expr.locate.eq_1, Expr.locate.eq_1]
        exact follows_ofName symbol
      · simp
  | binary line left operator right leftTreated rightTreated =>
      refine .of_evaluates ?_ (Expr.locate.eq_def ..) (by rw [Expr.relined]; rfl) rfl
      apply Expr.Evaluates.of_body (Expr.eval.eq_def ..) (Expr.eval.eq_def ..)
      rw [Expr.relined]
      refine Carrier.Follows.bind leftTreated.evaluates fun leftValue => ?_
      refine Carrier.Follows.bind rightTreated.evaluates fun rightValue => ?_
      exact follows_applyBinary context.options line operator leftValue rightValue
  | logical line left operator right leftTreated rightTreated =>
      refine .of_evaluates ?_ (Expr.locate.eq_def ..) (by rw [Expr.relined]; rfl) rfl
      exact evaluates_logical line operator leftTreated.evaluates rightTreated.evaluates
  | unary line operator argument ih =>
      refine .of_evaluates ?_ (Expr.locate.eq_def ..) (by rw [Expr.relined]; rfl) rfl
      apply Expr.Evaluates.of_body (Expr.eval.eq_def ..) (Expr.eval.eq_def ..)
      rw [Expr.relined]
      exact Carrier.Follows.bind ih.evaluates fun value => follows_applyUnary context.options line operator value
  | conditional line test consequent alternate tested consequence alternative =>
      refine .of_evaluates ?_ (Expr.locate.eq_def ..) (by rw [Expr.relined]; rfl) rfl
      exact evaluates_conditional line tested.evaluates consequence.evaluates alternative.evaluates
  | assign line target value located evaluated =>
      refine .of_evaluates ?_ (Expr.locate.eq_def ..) (by rw [Expr.relined]; rfl) rfl
      apply Expr.Evaluates.of_body (Expr.eval.eq_def ..) (Expr.eval.eq_def ..)
      rw [Expr.relined]
      refine Carrier.Follows.bind located.locates fun slot => ?_
      exact Carrier.Follows.bind evaluated.evaluates fun newValue => follows_store context.options line slot newValue
  | compound line target operator value located evaluated =>
      refine .of_evaluates ?_ (Expr.locate.eq_def ..) (by rw [Expr.relined]; rfl) rfl
      apply Expr.Evaluates.of_body (Expr.eval.eq_def ..) (Expr.eval.eq_def ..)
      rw [Expr.relined]
      refine Carrier.Follows.bind located.locates fun slot => ?_
      refine (follows_read slot).bind fun current => ?_
      refine Carrier.Follows.bind evaluated.evaluates fun operand => ?_
      exact follows_storeCompound context.options line operator slot current operand
  | field line object nameLine name ih => exact treats_field line nameLine name ih.evaluates
  | index line object position evaluated numbered => exact treats_index line evaluated.evaluates numbered.evaluates
  | call line callee arguments called given =>
      refine .of_evaluates ?_ (Expr.locate.eq_def ..) (by rw [Expr.relined]; rfl) rfl
      exact evaluates_call calls line called.object fun argument member => (given argument member).evaluates
  | create line className =>
      refine .of_evaluates ?_ (Expr.locate.eq_def ..) (by rw [Expr.relined]; rfl) rfl
      apply Expr.Evaluates.of_body (Expr.eval.eq_def ..) (Expr.eval.eq_def ..)
      rw [Expr.relined]
      exact follows_makeObject calls line className
  | newArray line elementType size ih =>
      refine .of_evaluates ?_ (Expr.locate.eq_def ..) (by rw [Expr.relined]; rfl) rfl
      apply Expr.Evaluates.of_body (Expr.eval.eq_def ..) (Expr.eval.eq_def ..)
      rw [Expr.relined]
      exact Carrier.Follows.bind ih.evaluates fun value => follows_makeArray context.options line elementType value
  | arrayOf line elementType values ih =>
      refine .of_evaluates ?_ (Expr.locate.eq_def ..) (by rw [Expr.relined]; rfl) rfl
      apply Expr.Evaluates.of_body (Expr.eval.eq_def ..) (Expr.eval.eq_def ..)
      rw [Expr.relined]
      exact follows_arrayOf line elementType fun value member => (ih value member).evaluates
  | update line form operator nameLine name =>
      refine .of_evaluates ?_ (Expr.locate.eq_def ..) (by rw [Expr.relined]; rfl) rfl
      apply Expr.Evaluates.of_body (Expr.eval.eq_def ..) (Expr.eval.eq_def ..)
      rw [Expr.relined]
      exact follows_updateVariable context.options line form operator name

theorem follows_eval (expression : Expr) : expression.Evaluates move context first second :=
  (treats_expression calls expression).evaluates

theorem follows_evalCondition (test : Expr) :
    Machine.Follows move id (test.evalCondition context first)
      ((test.relined move).evalCondition (context.relined move) second) := by
  unfold Expr.evalCondition
  rw [test.line_relined]
  exact Carrier.Follows.bind (follows_eval calls test) fun value => follows_truth test.line value

theorem follows_declarationValue (declaration : Declaration) :
    Machine.Follows move id (declaration.eval context first)
      ((declaration.relined move).eval (context.relined move) second) := by
  have evaluated : ∀ value : Expr, value.Evaluates move context first second := follows_eval calls
  obtain ⟨line, typeName, name, value, isStatic⟩ := declaration
  cases value with
  | none => exact .pure rfl
  | some expression =>
      cases expression with
      | arrayOf literalLine elementType values =>
          exact follows_arrayOf literalLine _ fun value _ => evaluated value
      | _ => exact evaluated _

theorem follows_declaration (declaration : Declaration) :
    Machine.Follows move id (declaration.exec context first)
      ((declaration.relined move).exec (context.relined move) second) := by
  refine (follows_atLine declaration.line).bind fun _ => ?_
  refine (follows_declarationValue calls declaration).bind fun value => ?_
  refine .look fun state => ?_
  refine (follows_declareIn state.current declaration.name value _).bind fun _ => ?_
  refine (follows_noteDeclared declaration.name).bind fun _ => ?_
  exact follows_record context.options declaration.line none none

theorem follows_forInit (clause : ForInit) :
    Machine.Follows move id (clause.exec context first) ((clause.relined move).exec (context.relined move) second) := by
  cases clause with
  | declare declaration => exact follows_declaration calls declaration
  | evaluate line expression =>
      refine (follows_atLine line).bind fun _ => ?_
      exact Carrier.Follows.bind (follows_eval calls expression) fun _ => .pure rfl

theorem follows_evalTest (test : Option Expr) :
    Machine.Follows move id (Expr.evalTest context first test)
      (Expr.evalTest (context.relined move) second (test.map (Expr.relined move))) := by
  cases test with
  | some test => exact follows_evalCondition calls test
  | none => exact .pure rfl

theorem follows_evalUpdate (update : Option Expr) :
    Machine.Follows move id (Expr.evalUpdate context first update)
      (Expr.evalUpdate (context.relined move) second (update.map (Expr.relined move))) := by
  cases update with
  | some expression => exact Carrier.Follows.bind (follows_eval calls expression) fun _ => .pure rfl
  | none => exact .pure rfl

theorem follows_returning (line : Nat) (argument : Option Expr) :
    Machine.Follows move id (returning context first line argument)
      (returning (context.relined move) second (move line) (argument.map (Expr.relined move))) := by
  have finish : ∀ value : Value, Machine.Follows move id
      (record context.options line none (some .return_) >>= fun _ => Pure.pure (Completion.returned value))
      (record context.options (move line) none (some .return_) >>= fun _ => Pure.pure (Completion.returned value)) :=
    fun value => follows_record_yield context.options line none _
  cases argument with
  | some expression => exact Carrier.Follows.bind (follows_eval calls expression) finish
  | none => exact finish .void

omit calls in
theorem follows_recordJump (line : Nat) (jump : Jump) :
    Machine.Follows move id (recordJump context line jump) (recordJump (context.relined move) (move line) jump) :=
  follows_record_yield context.options line none none

omit calls in
theorem follows_loop {round roundSecond : Machine (Option Completion)} (options : Options) (line : Nat)
    (follows : Machine.Follows move id round roundSecond) :
    Machine.Follows move id (loop options line round) (loop options (move line) roundSecond) := by
  have rounds : ∀ bound, Machine.Follows move id (repeated line options.maxSteps round bound)
      (repeated (move line) options.maxSteps roundSecond bound) := by
    intro bound
    induction bound with
    | zero => exact follows_failOn line _
    | succ bound ih =>
        refine follows.bind fun completion => ?_
        cases completion with
        | some completion => exact .pure rfl
        | none => exact ih
  exact rounds _

omit calls in
theorem follows_execAll_of_forall {statements : List Stmt}
    (follows : ∀ statement ∈ statements,
      Machine.Follows move id (statement.exec context first) ((statement.relined move).exec (context.relined move) second)) :
    Machine.Follows move id (Stmt.execAll context first statements)
      (Stmt.execAll (context.relined move) second (Stmt.relinedAll move statements)) := by
  induction statements with
  | nil =>
      rw [Stmt.relinedAll, Stmt.execAll.eq_def, Stmt.execAll.eq_def]
      exact .pure rfl
  | cons statement others ih =>
      rw [Stmt.relinedAll, Stmt.execAll.eq_def, Stmt.execAll.eq_def]
      refine (follows statement List.mem_cons_self).bind fun completion => ?_
      cases completion with
      | normal => exact ih fun other member => follows other (List.mem_cons_of_mem _ member)
      | jump jump => exact .pure rfl
      | returned value => exact .pure rfl

theorem follows_while {test : Expr} {body : Stmt} (line : Nat)
    (follows : Machine.Follows move id (body.exec context first) ((body.relined move).exec (context.relined move) second)) :
    Machine.Follows move id (Stmt.exec context first (.while_ line test body))
      (((Stmt.while_ line test body).relined move).exec (context.relined move) second) := by
  rw [Stmt.relined, Stmt.exec.eq_def, Stmt.exec.eq_def]
  refine (follows_atLine line).bind fun _ => ?_
  refine follows_loop context.options line ?_
  refine (follows_tick context.options line).bind fun _ => ?_
  refine (follows_evalCondition calls test).bind fun decided => ?_
  refine .branch ?_ (.pure rfl)
  exact follows.bind fun completion => .pure rfl

theorem follows_doWhile {test : Expr} {body : Stmt} (line : Nat)
    (follows : Machine.Follows move id (body.exec context first) ((body.relined move).exec (context.relined move) second)) :
    Machine.Follows move id (Stmt.exec context first (.doWhile line test body))
      (((Stmt.doWhile line test body).relined move).exec (context.relined move) second) := by
  rw [Stmt.relined, Stmt.exec.eq_def, Stmt.exec.eq_def]
  refine (follows_atLine line).bind fun _ => ?_
  refine follows_loop context.options line ?_
  refine (follows_tick context.options line).bind fun _ => ?_
  refine follows.bind fun completion => ?_
  dsimp only [id]
  cases afterBody completion with
  | some final => exact .pure rfl
  | none =>
      refine (follows_evalCondition calls test).bind fun decided => ?_
      exact .branch (.pure rfl) (.pure rfl)

theorem follows_for {init : Option ForInit} {test update : Option Expr} {body : Stmt} (line : Nat)
    (follows : Machine.Follows move id (body.exec context first) ((body.relined move).exec (context.relined move) second)) :
    Machine.Follows move id (Stmt.exec context first (.for_ line init test update body))
      (((Stmt.for_ line init test update body).relined move).exec (context.relined move) second) := by
  rw [Stmt.relined, Stmt.exec.eq_def, Stmt.exec.eq_def]
  refine (follows_atLine line).bind fun _ => ?_
  refine follows_inScope ?_
  -- With and without a first clause the same rounds follow.
  extract_lets rounds roundsSecond
  have loops : ∀ entry, Machine.Follows move id (rounds entry) (roundsSecond entry) := by
    intro entry
    refine follows_loop context.options line ?_
    refine (follows_tick context.options line).bind fun _ => ?_
    refine (follows_evalTest calls test).bind fun decided => ?_
    refine .branch ?_ (.pure rfl)
    refine follows.bind fun completion => ?_
    dsimp only [id]
    cases afterBody completion with
    | some final => exact .pure rfl
    | none => exact (follows_evalUpdate calls update).bind fun _ => .pure rfl
  cases init with
  | some clause => exact (follows_forInit calls clause).bind loops
  | none => exact loops ()

/-- Every statement carries lines along. -/
theorem follows_exec (statement : Stmt) :
    Machine.Follows move id (statement.exec context first)
      ((statement.relined move).exec (context.relined move) second) := by
  induction statement using Stmt.induction with
  | declare declaration =>
      rw [Stmt.relined, Stmt.exec.eq_def, Stmt.exec.eq_def]
      exact (follows_declaration calls declaration).bind fun _ => .pure rfl
  | evaluate line expression =>
      rw [Stmt.relined, Stmt.exec.eq_def, Stmt.exec.eq_def]
      refine (follows_atLine line).bind fun _ => ?_
      exact Carrier.Follows.bind (follows_eval calls expression) fun _ => .pure rfl
  | block line body ih =>
      rw [Stmt.relined, Stmt.exec.eq_def, Stmt.exec.eq_def]
      refine (follows_atLine line).bind fun _ => ?_
      exact follows_inScope (follows_execAll_of_forall ih)
  | ifThen line test consequent ih =>
      rw [Stmt.relined, Stmt.exec.eq_def, Stmt.exec.eq_def]
      refine (follows_atLine line).bind fun _ => ?_
      refine (follows_evalCondition calls test).bind fun decided => ?_
      exact .branch ih (.pure rfl)
  | ifElse line test consequent alternate consequence alternative =>
      rw [Stmt.relined, Stmt.exec.eq_def, Stmt.exec.eq_def]
      refine (follows_atLine line).bind fun _ => ?_
      refine (follows_evalCondition calls test).bind fun decided => ?_
      exact .branch consequence alternative
  | while_ line test body ih => exact follows_while calls line ih
  | doWhile line test body ih => exact follows_doWhile calls line ih
  | for_ line init test update body ih => exact follows_for calls line ih
  | return_ line argument =>
      rw [Stmt.relined, Stmt.exec.eq_def, Stmt.exec.eq_def]
      exact (follows_atLine line).bind fun _ => follows_returning calls line argument
  | break_ line =>
      rw [Stmt.relined, Stmt.exec.eq_def, Stmt.exec.eq_def]
      exact (follows_atLine line).bind fun _ => follows_recordJump line .break_
  | continue_ line =>
      rw [Stmt.relined, Stmt.exec.eq_def, Stmt.exec.eq_def]
      exact (follows_atLine line).bind fun _ => follows_recordJump line .continue_

theorem follows_execAll (statements : List Stmt) :
    Machine.Follows move id (Stmt.execAll context first statements)
      (Stmt.execAll (context.relined move) second (Stmt.relinedAll move statements)) :=
  follows_execAll_of_forall fun statement _ => follows_exec calls statement

omit calls in
theorem follows_checkArguments (method : Method) (arguments : List Value) (line : Nat) :
    Machine.Follows move id (checkArguments method arguments line)
      (checkArguments (method.relined move) arguments (move line)) := by
  have count : (method.relined move).params.length = method.params.length := List.length_map _
  unfold checkArguments
  rw [count]
  exact .branch (.pure rfl) (follows_failOn line _)

omit calls in
theorem follows_bindParams (activation : Nat) (params : List Param) (arguments : List Value) :
    Machine.Follows move id (bindParams activation params arguments)
      (bindParams activation (params.map (Param.relined move)) arguments) := by
  induction params generalizing arguments with
  | nil =>
      rw [List.map_nil, bindParams.eq_def]
      exact .pure rfl
  | cons param params ih =>
      rw [List.map_cons, bindParams.eq_def, bindParams.eq_def]
      cases arguments with
      | nil => exact .pure rfl
      | cons argument arguments =>
          refine (follows_declareIn activation param.name argument _).bind fun _ => ?_
          refine (follows_noteDeclared param.name).bind fun _ => ?_
          exact ih arguments

omit calls in
theorem follows_methodResult (completion : Completion) :
    Machine.Follows move id (methodResult completion) (methodResult completion) := by
  cases completion with
  | normal => exact .pure rfl
  | returned value => exact .pure rfl
  | jump jump => exact follows_fail _

omit calls in
theorem follows_runFrame {body bodySecond : Machine Completion} (frame : Frame) (activation : Nat)
    (follows : Machine.Follows move id body bodySecond) :
    Machine.Follows move id (runFrame frame activation body) (runFrame (frame.relined move) activation bodySecond) := by
  refine (follows_pushFrame frame).bind fun _ => ?_
  refine (follows_enterScope activation).bind fun _ => ?_
  refine follows.bind fun completion => ?_
  refine (follows_methodResult completion).bind fun value => ?_
  refine follows_popFrame.bind fun _ => ?_
  exact (follows_leaveScope activation frame.scope).bind fun _ => .pure rfl

theorem follows_initialFields (fields : List (String × Value)) (declarations : List Declaration) :
    Machine.Follows move id (initialFields context first fields declarations)
      (initialFields (context.relined move) second fields (declarations.map (Declaration.relined move))) := by
  induction declarations generalizing fields with
  | nil =>
      rw [List.map_nil, initialFields, initialFields]
      exact .pure rfl
  | cons declaration others ih =>
      rw [List.map_cons, initialFields, initialFields]
      have finish : ∀ value : Value, Machine.Follows move id
          (ofOutcome (value.coerce (some declaration.typeName)) >>= fun stored =>
            initialFields context first (Pairs.put declaration.name stored fields) others)
          (ofOutcome (value.coerce (some declaration.typeName)) >>= fun stored =>
            initialFields (context.relined move) second (Pairs.put declaration.name stored fields)
              (others.map (Declaration.relined move))) :=
        fun value => Carrier.Follows.bind (.unlined (value.unlined_coerce _)) fun stored => ih _
      obtain ⟨line, typeName, name, value, isStatic⟩ := declaration
      cases value with
      | some expression => exact Carrier.Follows.bind (follows_eval calls expression) finish
      | none => exact finish (Value.default typeName)

end Expressions

/-- However many frames there is room for, calls carry lines along. -/
theorem Calls.follow_within (context : Context) (room : Nat) :
    Calls.Follow move (Calls.within context room) (Calls.within (context.relined move) room) := by
  induction room with
  | zero =>
      rw [Calls.within, Calls.within]
      constructor
      · intro method className arguments line
        exact (follows_checkArguments method arguments line).bind fun _ => follows_failOn line _
      · exact fun _ => follows_fail _
  | succ room ih =>
      rw [Calls.within, Calls.within]
      constructor
      · intro method className arguments line
        refine (follows_checkArguments method arguments line).bind fun _ => ?_
        refine (follows_openScope globalScope).bind fun activation => ?_
        refine (follows_bindParams activation method.params arguments).bind fun _ => ?_
        refine .look fun state => ?_
        exact follows_runFrame { methodName := method.name, line := method.line, scope := state.current, className }
          activation (follows_execAll ih method.body)
      · intro decl
        refine .look fun state => ?_
        refine (follows_enterScope globalScope).bind fun _ => ?_
        refine (follows_pushFrame
          { methodName := "<init>", line := decl.line, scope := state.current, className := decl.name }).bind fun _ => ?_
        rw [decl.instanceFields_relined]
        refine (follows_initialFields ih [] decl.instanceFields).bind fun fields => ?_
        refine (follows_enterScope state.current).bind fun _ => ?_
        exact follows_popFrame.bind fun _ => .pure rfl

theorem follows_declareClasses (decls : List ClassDecl) :
    Machine.Follows move id (declareClasses decls) (declareClasses (decls.map (ClassDecl.relined move))) := by
  induction decls with
  | nil => exact .pure rfl
  | cons decl decls ih =>
      rw [List.map_cons, declareClasses, declareClasses, decl.methodNames_relined]
      refine (follows_atLine decl.line).bind fun _ => ?_
      exact (follows_declareIn globalScope decl.name _ none).bind fun _ => ih

theorem follows_declareAll (context : Context) (declarations : List Declaration) :
    Machine.Follows move id (declareAll context declarations)
      (declareAll (context.relined move) (declarations.map (Declaration.relined move))) := by
  induction declarations with
  | nil => exact .pure rfl
  | cons declaration others ih =>
      rw [List.map_cons, declareAll, declareAll]
      exact (follows_declaration (Calls.follow_within context _) declaration).bind fun _ => ih

theorem follows_initializeStatics (context : Context) (decls : List ClassDecl) :
    Machine.Follows move id (initializeStatics context decls)
      (initializeStatics (context.relined move) (decls.map (ClassDecl.relined move))) := by
  induction decls with
  | nil => exact .pure rfl
  | cons decl decls ih =>
      rw [List.map_cons, initializeStatics, initializeStatics, decl.staticFields_relined, List.isEmpty_map]
      refine .branch ?_ ih
      refine (follows_pushFrame
        { methodName := "<clinit>", line := decl.line, scope := globalScope, className := decl.name }).bind fun _ => ?_
      refine (follows_declareAll context decl.staticFields).bind fun _ => ?_
      exact follows_popFrame.bind fun _ => ih

/-- A run of a program on other lines is the run of the program, on those other lines. -/
theorem Context.follows_execute (context : Context) :
    Machine.Follows move id context.execute (context.relined move).execute := by
  refine (follows_declareClasses context.program.classes).bind fun _ => ?_
  dsimp only [Context.relined]
  rw [context.program.entryPoint?_relined]
  cases context.program.entryPoint? with
  | none => exact follows_fail _
  | some main =>
      refine (follows_initializeStatics context context.program.classes).bind fun _ => ?_
      refine .look fun state => ?_
      refine (follows_openScope globalScope).bind fun activation => ?_
      have body : Machine.Follows move id (Stmt.execAll context (Calls.outermost context) main.body)
          (Stmt.execAll (context.relined move) (Calls.outermost (context.relined move)) (Stmt.relinedAll move main.body)) :=
        follows_execAll (Calls.follow_within context _) main.body
      refine (follows_runFrame { methodName := "main", line := main.line, scope := state.current, className := "Main" }
        activation body).bind fun _ => ?_
      exact .pure rfl

/-- The first class sets the line, so that a run does not depend on the one it is begun on. -/
theorem Context.run_execute_line (context : Context) (declares : context.program.classes ≠ []) (state : State)
    (line : Nat) : context.execute.run { state with line } = context.execute.run state := by
  unfold Context.execute
  cases classes : context.program.classes with
  | nil => exact absurd classes declares
  | cons decl decls => rfl

theorem State.relined_initial : State.initial.relined move = { State.initial with line := move 0 } := by
  simp only [relined, initial, List.map_nil, List.map_toArray]

/-- A program that declares a class runs on other lines as it runs on its own. -/
theorem Program.run_relined (move : Nat → Nat) (program : Program) (options : Options) (declares : program.classes ≠ []) :
    ({ options, program := program.relined move } : Context).execute.run .initial =
      match ({ options, program } : Context).execute.run .initial with
      | .ok result after => .ok result (after.relined move)
      | .error failure after => .error (failure.relined move) (after.relined move) := by
  have moved : (program.relined move).classes ≠ [] := fun none => declares (List.map_eq_nil_iff.mp none)
  have follows : Machine.Follows move id _ _ := Context.follows_execute { options, program }
  rw [← Context.run_execute_line { options, program := program.relined move } moved .initial (move 0),
    ← State.relined_initial]
  refine (follows .initial).trans ?_
  dsimp only [Machine.carrier]
  cases ({ options, program } : Context).execute.run .initial with
  | ok result after => rfl
  | error failure after => rfl

/-- Without a class there is no entry point, and no line to blame for it. -/
theorem Program.trace_of_no_class {program : Program} (empty : program.classes = []) (options : Options) :
    program.trace options = .error (.issue .noEntryPoint none) := by
  obtain ⟨classes⟩ := program
  cases empty
  rfl

end Stepwise
