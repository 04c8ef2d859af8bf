import Stepwise.Proofs.Coupling.Expression

/-!
# Statements under a coupling

The same statement, executed on both sides of a coupling, ends alike, if calls and loops do. Loops may be run
differently on the two sides; a coupling is asked only that a loop ends alike whenever its rounds do, each of which
begins by being counted. A scope that is opened for a statement is one of the computation's own.
-/

namespace Stepwise

set_option autoImplicit false

namespace Coupling

def Executes (C : Coupling) (room : Nat) {α : Type} (left right : Machine α) : Prop :=
  ∀ one two, C.Ready room one two → C.Couples room one two left right fun _ => True

structure Supports (C : Coupling) (room : Nat) (left right : Evaluator) : Prop
    extends CouplesCalls C room left.toCalls right.toCalls where
  loop : ∀ {restLeft restRight : Machine (Option Completion)} (line : Nat),
    C.Executes room restLeft restRight →
    C.Executes room (left.loop line (Machine.tick C.left.options line >>= fun _ => restLeft))
      (right.loop line (Machine.tick C.right.options line >>= fun _ => restRight))

variable {C : Coupling} {room : Nat} {one two : State} {α β : Type}

theorem Executes.yields (result : α) : C.Executes room (pure result) (pure result) :=
  fun _ _ ready => .yields ready trivial

theorem Executes.seq {left right : Machine α} {nextLeft nextRight : α → Machine β}
    (executes : C.Executes room left right)
    (others : ∀ result, C.Executes room (nextLeft result) (nextRight result)) :
    C.Executes room (left >>= nextLeft) (right >>= nextRight) :=
  fun one two ready => (executes one two ready).seq fun result oneNext twoNext further _ =>
    others result oneNext twoNext further

variable (laws : C.Laws)
include laws

/-- The states agree after a scope was opened on both sides, the left one inside the parent and the right one inside the
other. -/
def Opens (C : Coupling) (room parent other : Nat) (one two : State) : Prop :=
  C.own one.scopes.size ∧
    C.agree room { one with scopes := one.scopes.opened (some parent) }
      { two with scopes := two.scopes.opened (some other) }

theorem runs_openScope_seq {parent other : Nat} {nextLeft nextRight : Nat → Machine α}
    {done : State → State → α → Prop} (agree : C.agree room one two) (opens : C.Opens room parent other one two)
    (others : ∀ oneOpen twoOpen handle, C.agree room oneOpen twoOpen → C.own handle →
      oneOpen.current = one.current → C.Runs oneOpen twoOpen (nextLeft handle) (nextRight (C.place handle)) done) :
    C.Runs one two (Machine.openScope parent >>= nextLeft) (Machine.openScope other >>= nextRight) done := by
  have following := others _ _ one.scopes.size opens.2 opens.1 rfl
  rw [← laws.size agree] at following
  exact Runs.open_seq (laws.leads_of_same rfl rfl rfl) following

theorem runs_leaveScope {handle : Nat} (outer : Nat) (agree : C.agree room one two) (own : C.own handle) :
    C.Runs one two (Machine.leaveScope handle outer) (Machine.leaveScope (C.place handle) (C.place outer))
      fun oneEnd twoEnd _ => C.agree room oneEnd twoEnd ∧ oneEnd.current = outer := by
  apply Runs.mark_seq
  apply Runs.change (laws.leads_of_same rfl rfl rfl)
  exact ⟨laws.closed outer agree own, rfl⟩

theorem runs_declareIn {holds : Scopes → Scopes → Prop} {handle other : Nat} {name : String} {value : Value}
    {typeName : Option String} (agree : C.agree room one two)
    (rescopes : Rescopes holds (one.scopes.declare handle name value typeName)
      (two.scopes.declare other name value typeName)) :
    C.Runs one two (Machine.declareIn handle name value typeName) (Machine.declareIn other name value typeName)
      fun oneEnd twoEnd _ => ∃ first second, holds first second ∧ oneEnd = { one with scopes := first } ∧
        twoEnd = { two with scopes := second } := by
  apply Runs.look
  dsimp only
  generalize one.scopes.declare handle name value typeName = firstOutcome at rescopes ⊢
  generalize two.scopes.declare other name value typeName = secondOutcome at rescopes ⊢
  cases rescopes with
  | failed failure => exact Runs.fails_seq (laws.failing agree)
  | @changed stored first second held =>
      apply Runs.yields_seq
      apply Runs.change (laws.leads_of_same rfl rfl rfl)
      exact ⟨first, second, held, rfl, rfl⟩

theorem runs_declare_seq {handle : Nat} {nextLeft nextRight : Unit → Machine β} {done : State → State → β → Prop}
    (name : String) (value : Value) (typeName : String) (agree : C.agree room one two) (inside : C.shared handle)
    (others : ∀ oneNext twoNext, C.agree room oneNext twoNext → oneNext.current = one.current →
      C.Runs oneNext twoNext (nextLeft ()) (nextRight ()) done) :
    C.Runs one two
      (Machine.declareIn handle name value (some typeName) >>= fun _ => Machine.noteDeclared name >>= nextLeft)
      (Machine.declareIn (C.place handle) name value (some typeName) >>= fun _ =>
        Machine.noteDeclared name >>= nextRight)
      done := by
  apply (runs_declareIn laws agree (laws.declared name value typeName agree inside)).seq
  rintro - oneNext twoNext ⟨first, second, held, rfl, rfl⟩
  apply Runs.change_seq (laws.leads_noting name _)
  exact others _ _ held (State.current_noting name _)

/-- A scope is entered on both sides, and left for where either run was. -/
theorem runs_inScope {left right : Machine α} (agree : C.agree room one two) (own : C.own one.scopes.size)
    (runs : C.Runs one.entering two.entering left right fun oneEnd twoEnd _ => C.agree room oneEnd twoEnd) :
    C.Runs one two (Machine.inScope left) (Machine.inScope right) fun oneEnd twoEnd _ =>
      C.agree room oneEnd twoEnd ∧ oneEnd.current = one.current := by
  apply Runs.look
  apply Runs.open_seq (laws.leads_of_same rfl rfl rfl)
  apply Runs.change_seq (laws.leads_of_same rfl rfl rfl)
  apply Runs.seq runs
  intro result oneNext twoNext further
  rw [laws.size agree, laws.current agree]
  apply (runs_leaveScope laws one.current further own).seq
  intro _ oneLast twoLast last
  exact .yields last

theorem executes_inScope {left right : Machine Completion} (executes : C.Executes room left right) :
    C.Executes room (Machine.inScope left) (Machine.inScope right) := by
  intro one two ready
  obtain ⟨own, opened⟩ := laws.opened ready.agree ready.current
  have entered := laws.entered one.scopes.size opened
  rw [← laws.size ready.agree, ← laws.current ready.agree] at entered
  have inside := executes one.entering two.entering ⟨entered, .inr own⟩
  exact (runs_inScope laws ready.agree own (inside.imp fun _ _ _ done => done.1.agree)).couples ready

theorem executes_atLine (line : Nat) : C.Executes room (Machine.atLine line) (Machine.atLine line) := by
  intro one two ready
  apply Runs.change (laws.leads_of_same rfl rfl rfl)
  exact ⟨⟨laws.atLine line ready.agree, ready.current⟩, trivial⟩

variable {left right : Calls} (couples : C.CouplesCalls room left right)
include couples

theorem executes_expression (expression : Expr) :
    C.Executes room (expression.eval C.left left) (expression.eval C.right right) :=
  (treats_expression laws.toViewLaws couples expression).evaluates

theorem executes_condition (test : Expr) :
    C.Executes room (test.evalCondition C.left left) (test.evalCondition C.right right) := by
  apply (executes_expression laws couples test).seq
  exact fun value one two ready => couples_truth laws.toViewLaws test.line value ready

theorem executes_declarationValue (declaration : Declaration) :
    C.Executes room (declaration.eval C.left left) (declaration.eval C.right right) := by
  intro one two ready
  unfold Declaration.eval
  split
  · exact .yields ready trivial
  · next line elementType values _ =>
      exact couples_arrayOf laws.toViewLaws line _ (fun value _ => executes_expression laws couples value) ready
  · next value _ _ => exact executes_expression laws couples value one two ready

theorem executes_declaration (declaration : Declaration) :
    C.Executes room (declaration.exec C.left left) (declaration.exec C.right right) := by
  apply (executes_atLine laws declaration.line).seq
  intro _
  apply (executes_declarationValue laws couples declaration).seq
  intro value one two ready
  apply Couples.look
  rw [laws.current ready.agree]
  apply runs_declare_seq laws declaration.name value declaration.typeName ready.agree ready.current
  intro oneNext twoNext agree same
  have current : C.shared oneNext.current := by
    rw [same]
    exact ready.current
  exact laws.record declaration.line none none ⟨agree, current⟩

theorem executes_forInit (clause : ForInit) :
    C.Executes room (clause.exec C.left left) (clause.exec C.right right) := by
  cases clause with
  | declare declaration => exact executes_declaration laws couples declaration
  | evaluate line expression =>
      apply (executes_atLine laws line).seq
      intro _
      apply (executes_expression laws couples expression).seq
      exact fun _ => .yields ()

theorem executes_test (test : Option Expr) :
    C.Executes room (Expr.evalTest C.left left test) (Expr.evalTest C.right right test) := by
  cases test with
  | some test => exact executes_condition laws couples test
  | none => exact .yields true

theorem executes_update (update : Option Expr) :
    C.Executes room (Expr.evalUpdate C.left left update) (Expr.evalUpdate C.right right update) := by
  cases update with
  | some expression =>
      apply (executes_expression laws couples expression).seq
      exact fun _ => .yields ()
  | none => exact .yields ()

theorem executes_returning (line : Nat) (argument : Option Expr) :
    C.Executes room (Machine.returning C.left left line argument) (Machine.returning C.right right line argument) := by
  have finish : ∀ value, C.Executes room
      (Machine.record C.left.options line none (some .return_) >>= fun _ => pure (Completion.returned value))
      (Machine.record C.right.options line none (some .return_) >>= fun _ => pure (Completion.returned value)) :=
    fun value one two ready => couples_record_yield laws.toViewLaws line none (some .return_) ready trivial
  cases argument with
  | some expression => exact (executes_expression laws couples expression).seq finish
  | none => exact (Executes.yields Value.void).seq finish

omit couples in
theorem executes_recordJump (line : Nat) (jump : Jump) :
    C.Executes room (Machine.recordJump C.left line jump) (Machine.recordJump C.right line jump) :=
  fun _ _ ready => couples_record_yield laws.toViewLaws line none none ready trivial

omit couples laws in
theorem executes_all {left right : Evaluator} {statements : List Stmt}
    (executes : ∀ statement ∈ statements,
      C.Executes room (statement.execBy C.left left) (statement.execBy C.right right)) :
    C.Executes room (Stmt.execAllBy C.left left statements) (Stmt.execAllBy C.right right statements) := by
  induction statements with
  | nil =>
      rw [Stmt.execAllBy.eq_def, Stmt.execAllBy.eq_def]
      exact .yields _
  | cons statement others ih =>
      rw [Stmt.execAllBy.eq_def, Stmt.execAllBy.eq_def]
      apply (executes statement List.mem_cons_self).seq
      intro completion
      cases completion with
      | normal => exact ih fun other member => executes other (List.mem_cons_of_mem _ member)
      | jump jump => exact .yields _
      | returned value => exact .yields _

omit couples

variable {left right : Evaluator} (supports : C.Supports room left right)
include supports

theorem executes_while {test : Expr} {body : Stmt} (line : Nat)
    (executes : C.Executes room (body.execBy C.left left) (body.execBy C.right right)) :
    C.Executes room (Stmt.execBy C.left left (.while_ line test body))
      (Stmt.execBy C.right right (.while_ line test body)) := by
  rw [Stmt.execBy.eq_def, Stmt.execBy.eq_def]
  apply (executes_atLine laws line).seq
  intro _
  apply supports.loop line
  apply (executes_condition laws supports.toCouplesCalls test).seq
  intro decided
  split
  · exact executes.seq fun completion => .yields _
  · exact .yields _

theorem executes_doWhile {test : Expr} {body : Stmt} (line : Nat)
    (executes : C.Executes room (body.execBy C.left left) (body.execBy C.right right)) :
    C.Executes room (Stmt.execBy C.left left (.doWhile line test body))
      (Stmt.execBy C.right right (.doWhile line test body)) := by
  rw [Stmt.execBy.eq_def, Stmt.execBy.eq_def]
  apply (executes_atLine laws line).seq
  intro _
  apply supports.loop line
  apply executes.seq
  intro completion
  cases Machine.afterBody completion with
  | some final => exact .yields _
  | none =>
      apply (executes_condition laws supports.toCouplesCalls test).seq
      intro decided
      split
      · exact .yields _
      · exact .yields _

theorem executes_for {init : Option ForInit} {test update : Option Expr} {body : Stmt} (line : Nat)
    (executes : C.Executes room (body.execBy C.left left) (body.execBy C.right right)) :
    C.Executes room (Stmt.execBy C.left left (.for_ line init test update body))
      (Stmt.execBy C.right right (.for_ line init test update body)) := by
  rw [Stmt.execBy.eq_def, Stmt.execBy.eq_def]
  apply (executes_atLine laws line).seq
  intro _
  apply executes_inScope laws
  -- With and without a first clause the same rounds follow.
  extract_lets roundsLeft roundsRight
  have loops : ∀ entry, C.Executes room (roundsLeft entry) (roundsRight entry) := by
    intro entry
    apply supports.loop line
    apply (executes_test laws supports.toCouplesCalls test).seq
    intro decided
    split
    · apply executes.seq
      intro completion
      cases Machine.afterBody completion with
      | some final => exact .yields _
      | none =>
          apply (executes_update laws supports.toCouplesCalls update).seq
          exact fun _ => .yields _
    · exact .yields _
  cases init with
  | some clause => exact (executes_forInit laws supports.toCouplesCalls clause).seq loops
  | none => exact loops ()

/-- Every statement ends alike on both sides. -/
theorem executes_statement (statement : Stmt) :
    C.Executes room (statement.execBy C.left left) (statement.execBy C.right right) := by
  induction statement using Stmt.induction with
  | declare declaration =>
      rw [Stmt.execBy.eq_def, Stmt.execBy.eq_def]
      exact (executes_declaration laws supports.toCouplesCalls declaration).seq fun _ => .yields _
  | evaluate line expression =>
      rw [Stmt.execBy.eq_def, Stmt.execBy.eq_def]
      apply (executes_atLine laws line).seq
      intro _
      exact (executes_expression laws supports.toCouplesCalls expression).seq fun _ => .yields _
  | block line body ih =>
      rw [Stmt.execBy.eq_def, Stmt.execBy.eq_def]
      apply (executes_atLine laws line).seq
      intro _
      exact executes_inScope laws (executes_all ih)
  | ifThen line test consequent ih =>
      rw [Stmt.execBy.eq_def, Stmt.execBy.eq_def]
      apply (executes_atLine laws line).seq
      intro _
      apply (executes_condition laws supports.toCouplesCalls test).seq
      intro decided
      split
      · exact ih
      · exact .yields _
  | ifElse line test consequent alternate first second =>
      rw [Stmt.execBy.eq_def, Stmt.execBy.eq_def]
      apply (executes_atLine laws line).seq
      intro _
      apply (executes_condition laws supports.toCouplesCalls test).seq
      intro decided
      split
      · exact first
      · exact second
  | while_ line test body ih => exact executes_while laws supports line ih
  | doWhile line test body ih => exact executes_doWhile laws supports line ih
  | for_ line init test update body ih => exact executes_for laws supports line ih
  | return_ line argument =>
      rw [Stmt.execBy.eq_def, Stmt.execBy.eq_def]
      apply (executes_atLine laws line).seq
      exact fun _ => executes_returning laws supports.toCouplesCalls line argument
  | break_ line =>
      rw [Stmt.execBy.eq_def, Stmt.execBy.eq_def]
      exact (executes_atLine laws line).seq fun _ => executes_recordJump laws line .break_
  | continue_ line =>
      rw [Stmt.execBy.eq_def, Stmt.execBy.eq_def]
      exact (executes_atLine laws line).seq fun _ => executes_recordJump laws line .continue_

theorem executes_statements (statements : List Stmt) :
    C.Executes room (Stmt.execAllBy C.left left statements) (Stmt.execAllBy C.right right statements) :=
  executes_all fun statement _ => executes_statement laws supports statement

end Coupling

end Stepwise
