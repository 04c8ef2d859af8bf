import Stepwise.Proofs.Discipline.Expression

/-!
# Statements under a discipline

Executing a statement obeys a discipline, if calling methods and making objects does. A statement may declare names
in the current scope, and in no other. A loop is an induction over its rounds, each of which begins where an
evaluation may begin; the statement itself is an induction over its parts.
-/

namespace Stepwise

set_option autoImplicit false

namespace Discipline

variable {context : Context} {D : Discipline context} {room : Nat} {start : State} {calls : Calls} {α β : Type}
  (laws : D.Laws)

/-- Wherever an evaluation may begin, the computation obeys; it declares names in the current scope only. -/
def Executes (D : Discipline context) (room : Nat) (computation : Machine α) (required : State → α → Prop) : Prop :=
  ∀ start, D.Ready room start → D.Obeys (some start.current) room start computation required

/-- The values that may be returned by a completion of which a round of a loop tells. -/
def told (D : Discipline context) (state : State) (outcome : Option Completion) : Prop :=
  ∀ completion, outcome = some completion → D.completion state completion

theorem told_afterBody {state : State} {completion : Completion} (held : D.completion state completion) :
    D.told state (Machine.afterBody completion) := by
  intro final told
  cases completion with
  | normal => cases told
  | returned value =>
      cases told
      exact held
  | jump jump =>
      cases jump with
      | break_ =>
          cases told
          exact nofun
      | continue_ => cases told

theorem told_normal (state : State) : D.told state (some .normal) := by
  intro final told
  cases told
  exact nofun

include laws

theorem completion_mono {before after : State} {completion : Completion} (leads : D.leads before after)
    (held : D.completion before completion) : D.completion after completion :=
  fun value returned => laws.value_mono leads (held value returned)

theorem Executes.yields {result : α} {required : State → α → Prop} (holds : ∀ state, required state result) :
    D.Executes room (pure result) required :=
  fun start ready => .yields laws ready (holds start)

/-- One computation after another, which begins where an evaluation may begin. -/
theorem Executes.seq {first : Machine α} {next : α → Machine β} {middle : State → α → Prop}
    {required : State → β → Prop} (executes : D.Executes room first middle)
    (others : ∀ result start, D.Ready room start → middle start result →
      D.Obeys (some start.current) room start (next result) required) :
    D.Executes room (first >>= next) required := by
  intro start ready
  refine (executes start ready).seq laws ?_
  intro result state follows held
  have obeys := others result state follows.ready held
  rw [follows.restores.current] at obeys
  exact obeys

theorem Executes.andThen {first : Machine α} {next : α → Machine β} {middle : State → α → Prop}
    {required : State → β → Prop} (executes : D.Executes room first middle)
    (others : ∀ result, D.Executes room (next result) required) : D.Executes room (first >>= next) required :=
  executes.seq laws fun result state ready _ => others result state ready

theorem executes_atLine (line : Nat) : D.Executes room (Machine.atLine line) fun _ _ => True :=
  fun _ ready => obeys_atLine laws line ready

omit laws in
theorem executes_expression {expression : Expr} (evaluates : D.Evaluates room calls expression) :
    D.Executes room (expression.eval context calls) D.value :=
  fun start ready => (evaluates start ready).loosen _

theorem executes_condition {test : Expr} (evaluates : D.Evaluates room calls test) :
    D.Executes room (test.evalCondition context calls) fun _ _ => True :=
  (executes_expression evaluates).andThen laws fun value _ ready => obeys_truth laws test.line value ready

/-- Repeating a round: only the last one tells a completion. -/
theorem executes_repeated {round : Machine (Option Completion)} (line limit bound : Nat)
    (executes : D.Executes room round D.told) :
    D.Executes room (Machine.repeated line limit round bound) D.completion := by
  -- The induction is on the rounds that are still allowed; each begins in whatever state the one before ended in.
  induction bound with
  | zero =>
      intro start ready
      rw [Machine.repeated]
      exact .failOn laws line _ ready
  | succ bound hypothesis =>
      rw [Machine.repeated]
      refine executes.seq laws ?_
      intro outcome state ready told
      cases outcome with
      | some completion => exact .yields laws ready (told completion rfl)
      | none => exact hypothesis state ready

theorem executes_loop {rest : Machine (Option Completion)} (line : Nat) (executes : D.Executes room rest D.told) :
    D.Executes room
      (Machine.loop context.options line (Machine.tick context.options line >>= fun _ => rest)) D.completion := by
  have counts : D.Executes room (Machine.tick context.options line) fun _ _ => True :=
    fun _ ready => obeys_tick laws line ready
  exact executes_repeated laws line _ _ (counts.andThen laws fun _ => executes)

/-- A block has a scope of its own, so that around it nothing is declared. -/
theorem executes_inScope {body : Machine Completion} (executes : D.Executes room body D.completion) :
    D.Executes room (Machine.inScope body) D.completion := by
  intro start ready
  have stable : ∀ before after completion, D.leads before after → D.completion before completion →
      D.completion after completion := fun _ _ _ leads held => completion_mono laws leads held
  exact (obeys_inScope laws ready stable executes).loosen _

variable (obeys : D.ObeysCalls room calls)
include obeys

theorem evaluates_of_known {expression : Expr} (known : ∀ part ∈ expression.parts, D.node part) :
    D.Evaluates room calls expression :=
  (treats_expression laws obeys expression known).evaluates

theorem obeys_declarationValue {declaration : Declaration} (known : ∀ part ∈ declaration.expressions, D.node part)
    (declared : D.declaration declaration) (ready : D.Ready room start) : D.Obeys none room start (declaration.eval context calls) D.value := by
  unfold Declaration.expressions at known
  unfold Declaration.eval
  split
  · exact .yields laws ready (laws.plain start (Value.default_isPlain _))
  · next line elementType values given =>
      rw [given, Expr.partsOf] at known
      simp only [Expr.parts, List.forall_mem_cons] at known
      have sized : D.element (if declaration.typeName.endsWith "[]" = true
          then String.ofList declaration.typeName.toList.dropLast.dropLast else elementType) := by
        split
        · next bracketed => exact laws.declaredElement declared bracketed
        · exact laws.listed known.1
      refine obeys_arrayOf laws line sized ?_ ready
      exact fun value member => evaluates_of_known laws obeys (Expr.forall_mem_partsAll.mp known.2 _ member)
  · next value _ given =>
      rw [given, Expr.partsOf] at known
      exact evaluates_of_known laws obeys known start ready

theorem executes_declaration {declaration : Declaration} (known : ∀ part ∈ declaration.expressions, D.node part)
    (declared : D.declaration declaration) :
    D.Executes room (declaration.exec context calls) fun _ _ => True := by
  refine (executes_atLine laws declaration.line).andThen laws fun _ => ?_
  have evaluates : D.Executes room (declaration.eval context calls) D.value :=
    fun start ready => (obeys_declarationValue laws obeys known declared ready).loosen _
  refine evaluates.seq laws ?_
  intro value start ready admitted
  refine .look ?_
  refine (obeys_declareIn laws declaration.name _ ready ready.placed.current admitted).seq laws ?_
  intro _ state follows _
  refine (obeys_noteDeclared laws declaration.name follows.ready).seq laws ?_
  exact fun _ after further _ => obeys_record laws declaration.line none further.ready nofun

theorem executes_forInit {clause : ForInit} (known : ∀ part ∈ ForInit.expressions (some clause), D.node part)
    (declared : ∀ declaration ∈ ForInit.declarations (some clause), D.declaration declaration) :
    D.Executes room (clause.exec context calls) fun _ _ => True := by
  cases clause with
  | declare declaration => exact executes_declaration laws obeys known (declared declaration (List.mem_singleton_self _))
  | evaluate line expression =>
      refine (executes_atLine laws line).andThen laws fun _ => ?_
      refine (executes_expression (evaluates_of_known laws obeys known)).andThen laws fun _ => ?_
      exact .yields laws fun _ => trivial

theorem executes_test {test : Option Expr} (known : ∀ part ∈ Expr.partsOf test, D.node part) :
    D.Executes room (Expr.evalTest context calls test) fun _ _ => True := by
  cases test with
  | some test => exact executes_condition laws (evaluates_of_known laws obeys known)
  | none => exact .yields laws fun _ => trivial

theorem executes_update {update : Option Expr} (known : ∀ part ∈ Expr.partsOf update, D.node part) :
    D.Executes room (Expr.evalUpdate context calls update) fun _ _ => True := by
  cases update with
  | some expression =>
      refine (executes_expression (evaluates_of_known laws obeys known)).andThen laws fun _ => ?_
      exact .yields laws fun _ => trivial
  | none => exact .yields laws fun _ => trivial

theorem executes_returning {argument : Option Expr} (line : Nat)
    (known : ∀ part ∈ Expr.partsOf argument, D.node part) :
    D.Executes room (Machine.returning context calls line argument) D.completion := by
  have finish : ∀ value start, D.Ready room start → D.value start value → D.Obeys (some start.current) room start
      (Machine.record context.options line none (some .return_) >>= fun _ => pure (.returned value))
      D.completion := by
    intro value start ready held
    refine obeys_record_yield laws line none ready nofun ?_
    intro final follows other returned
    cases returned
    exact laws.value_mono follows.leads held
  cases argument with
  | some expression => exact (executes_expression (evaluates_of_known laws obeys known)).seq laws finish
  | none =>
      have yields : D.Executes room (pure Value.void) D.value := .yields laws fun state => laws.plain state trivial
      exact yields.seq laws finish

omit obeys in
theorem executes_recordJump (line : Nat) (jump : Jump) :
    D.Executes room (Machine.recordJump context line jump) D.completion :=
  fun _ ready => obeys_record_yield laws line none ready nofun fun _ _ => nofun

omit obeys in
theorem executes_all {statements : List Stmt}
    (executes : ∀ statement ∈ statements, D.Executes room (statement.exec context calls) D.completion) :
    D.Executes room (Stmt.execAll context calls statements) D.completion := by
  induction statements with
  | nil =>
      rw [Stmt.execAll.eq_def]
      exact .yields laws fun _ => nofun
  | cons statement others hypothesis =>
      rw [Stmt.execAll.eq_def]
      refine (executes statement List.mem_cons_self).seq laws ?_
      intro completion state ready held
      split
      · exact hypothesis (fun other member => executes other (List.mem_cons_of_mem _ member)) state ready
      · exact .yields laws ready held

omit obeys in
theorem executes_while {test : Expr} {body : Stmt} (line : Nat) (condition : D.Evaluates room calls test)
    (executes : D.Executes room (body.exec context calls) D.completion) :
    D.Executes room (Stmt.exec context calls (.while_ line test body)) D.completion := by
  rw [Stmt.exec.eq_def]
  refine (executes_atLine laws line).andThen laws fun _ => ?_
  refine executes_loop laws line ?_
  refine (executes_condition laws condition).andThen laws fun decided => ?_
  split
  · exact executes.seq laws fun completion state ready held => .yields laws ready (told_afterBody held)
  · exact .yields laws told_normal

omit obeys in
theorem executes_doWhile {test : Expr} {body : Stmt} (line : Nat) (condition : D.Evaluates room calls test)
    (executes : D.Executes room (body.exec context calls) D.completion) :
    D.Executes room (Stmt.exec context calls (.doWhile line test body)) D.completion := by
  rw [Stmt.exec.eq_def]
  refine (executes_atLine laws line).andThen laws fun _ => ?_
  refine executes_loop laws line ?_
  refine executes.seq laws ?_
  intro completion start ready held
  have after := told_afterBody held
  cases ended : Machine.afterBody completion with
  | some final =>
      rw [ended] at after
      exact .yields laws ready after
  | none =>
      refine (executes_condition laws condition).andThen laws (fun decided => ?_) start ready
      split
      · exact .yields laws fun _ => nofun
      · exact .yields laws told_normal

theorem executes_for {init : Option ForInit} {test update : Option Expr} {body : Stmt} (line : Nat)
    (knownInit : ∀ part ∈ ForInit.expressions init, D.node part)
    (declared : ∀ declaration ∈ ForInit.declarations init, D.declaration declaration)
    (knownTest : ∀ part ∈ Expr.partsOf test, D.node part) (knownUpdate : ∀ part ∈ Expr.partsOf update, D.node part)
    (executes : D.Executes room (body.exec context calls) D.completion) :
    D.Executes room (Stmt.exec context calls (.for_ line init test update body)) D.completion := by
  rw [Stmt.exec.eq_def]
  refine (executes_atLine laws line).andThen laws fun _ => ?_
  refine executes_inScope laws ?_
  -- With and without a first clause the same rounds follow.
  extract_lets rounds
  have loops : ∀ entry, D.Executes room (rounds entry) D.completion := by
    intro entry
    refine executes_loop laws line ?_
    refine (executes_test laws obeys knownTest).andThen laws fun decided => ?_
    split
    · refine executes.seq laws ?_
      intro completion start ready held
      have after := told_afterBody held
      cases ended : Machine.afterBody completion with
      | some final =>
          rw [ended] at after
          exact .yields laws ready after
      | none =>
          refine (executes_update laws obeys knownUpdate).andThen laws (fun _ => ?_) start ready
          exact .yields laws fun _ => nofun
    · exact .yields laws told_normal
  cases init with
  | some clause => exact (executes_forInit laws obeys knownInit declared).andThen laws loops
  | none => exact loops ()

/-- Every statement whose expressions are known of is executed as the discipline demands. -/
theorem executes_statement (statement : Stmt) (known : ∀ part ∈ statement.expressions, D.node part)
    (declared : ∀ declaration ∈ statement.declarations, D.declaration declaration) :
    D.Executes room (statement.exec context calls) D.completion := by
  induction statement using Stmt.induction with
  | declare declaration =>
      rw [Stmt.exec.eq_def]
      rw [Stmt.expressions] at known
      rw [Stmt.declarations, List.forall_mem_singleton] at declared
      exact (executes_declaration laws obeys known declared).andThen laws fun _ => .yields laws fun _ => nofun
  | evaluate line expression =>
      rw [Stmt.exec.eq_def]
      rw [Stmt.expressions] at known
      refine (executes_atLine laws line).andThen laws fun _ => ?_
      refine (executes_expression (evaluates_of_known laws obeys known)).andThen laws fun _ => ?_
      exact .yields laws fun _ => nofun
  | block line body hypothesis =>
      rw [Stmt.exec.eq_def]
      rw [Stmt.expressions, Stmt.forall_mem_expressionsAll] at known
      rw [Stmt.declarations, Stmt.forall_mem_declarationsAll] at declared
      refine (executes_atLine laws line).andThen laws fun _ => ?_
      refine executes_inScope laws (executes_all laws ?_)
      exact fun statement member => hypothesis statement member (known _ member) (declared _ member)
  | ifThen line test consequent hypothesis =>
      rw [Stmt.exec.eq_def]
      rw [Stmt.expressions, List.forall_mem_append] at known
      rw [Stmt.declarations] at declared
      refine (executes_atLine laws line).andThen laws fun _ => ?_
      refine (executes_condition laws (evaluates_of_known laws obeys known.1)).andThen laws fun decided => ?_
      split
      · exact hypothesis known.2 declared
      · exact .yields laws fun _ => nofun
  | ifElse line test consequent alternate first second =>
      rw [Stmt.exec.eq_def]
      rw [Stmt.expressions, List.forall_mem_append, List.forall_mem_append] at known
      rw [Stmt.declarations, List.forall_mem_append] at declared
      refine (executes_atLine laws line).andThen laws fun _ => ?_
      refine (executes_condition laws (evaluates_of_known laws obeys known.1.1)).andThen laws fun decided => ?_
      split
      · exact first known.1.2 declared.1
      · exact second known.2 declared.2
  | while_ line test body hypothesis =>
      rw [Stmt.expressions, List.forall_mem_append] at known
      rw [Stmt.declarations] at declared
      exact executes_while laws line (evaluates_of_known laws obeys known.1) (hypothesis known.2 declared)
  | doWhile line test body hypothesis =>
      rw [Stmt.expressions, List.forall_mem_append] at known
      rw [Stmt.declarations] at declared
      exact executes_doWhile laws line (evaluates_of_known laws obeys known.1) (hypothesis known.2 declared)
  | for_ line init test update body hypothesis =>
      rw [Stmt.expressions, List.forall_mem_append, List.forall_mem_append, List.forall_mem_append] at known
      rw [Stmt.declarations, List.forall_mem_append] at declared
      obtain ⟨⟨⟨knownInit, knownTest⟩, knownUpdate⟩, knownBody⟩ := known
      exact executes_for laws obeys line knownInit declared.1 knownTest knownUpdate (hypothesis knownBody declared.2)
  | return_ line argument =>
      rw [Stmt.exec.eq_def]
      rw [Stmt.expressions] at known
      exact (executes_atLine laws line).andThen laws fun _ => executes_returning laws obeys line known
  | break_ line =>
      rw [Stmt.exec.eq_def]
      exact (executes_atLine laws line).andThen laws fun _ => executes_recordJump laws line .break_
  | continue_ line =>
      rw [Stmt.exec.eq_def]
      exact (executes_atLine laws line).andThen laws fun _ => executes_recordJump laws line .continue_

theorem executes_statements {statements : List Stmt} (known : ∀ part ∈ Stmt.expressionsAll statements, D.node part)
    (declared : ∀ declaration ∈ Stmt.declarationsAll statements, D.declaration declaration) :
    D.Executes room (Stmt.execAll context calls statements) D.completion :=
  executes_all laws fun statement member =>
    executes_statement laws obeys statement (Stmt.forall_mem_expressionsAll.mp known _ member)
      (Stmt.forall_mem_declarationsAll.mp declared _ member)

end Discipline

end Stepwise
