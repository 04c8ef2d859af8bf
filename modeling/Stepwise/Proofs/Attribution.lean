import Stepwise.Proofs.Coupling.Run

/-!
# The line an issue is attributed to

An issue that names no line is attributed to the line that the run noted last, which is that of the statement begun
last. The statement in progress is another matter: when a call has returned or the body of a loop has completed, the
enclosing statement goes on, but the line noted is still that of the last statement inside. So there are programs whose
issues are attributed to the wrong line.

What the right line is, is told by a second way to execute statements, where each statement puts back the line of the
enclosing one when it completes. The line noted is then always that of the innermost statement in progress. The two
ways differ in nothing else: they yield the same trace or fail alike, and only the line of an issue without one of its
own may differ. It does not differ for programs that call no methods and have neither loops nor jumps, where no
statement is left for an enclosing one that still has something to evaluate.
-/

namespace Stepwise

set_option autoImplicit false

open Machine

variable {context : Context} {room : Nat}

/-- Puts back the line that was noted before a computation, when that completes. -/
def Machine.restoring {α : Type} (computation : Machine α) : Machine α := do
  let enclosing := (← get).line
  let result ← computation
  atLine enclosing
  return result

def ForInit.execRestoring (context : Context) (calls : Calls) (clause : ForInit) : Machine Unit :=
  restoring (clause.exec context calls)

mutual

/-- Executes a statement as the machine does, and puts back the line of the enclosing statement. -/
def Stmt.execRestoring (context : Context) (calls : Calls) : Stmt → Machine Completion
  | .declare declaration => restoring do
      declaration.exec context calls
      return .normal
  | .evaluate line expression => restoring do
      atLine line
      let _ ← expression.eval context calls
      return .normal
  | .block line body => restoring do
      atLine line
      inScope (Stmt.execAllRestoring context calls body)
  | .ifThen line test consequent => restoring do
      atLine line
      if ← test.evalCondition context calls then consequent.execRestoring context calls else return .normal
  | .ifElse line test consequent alternate => restoring do
      atLine line
      if ← test.evalCondition context calls then consequent.execRestoring context calls
      else alternate.execRestoring context calls
  | .while_ line test body => restoring do
      atLine line
      loop context.options line do
        tick context.options line
        if ← test.evalCondition context calls then
          let completion ← body.execRestoring context calls
          return afterBody completion
        else return some .normal
  | .doWhile line test body => restoring do
      atLine line
      loop context.options line do
        tick context.options line
        let completion ← body.execRestoring context calls
        match afterBody completion with
        | some final => return some final
        | none => if ← test.evalCondition context calls then return none else return some .normal
  | .for_ line init test update body => restoring do
      atLine line
      inScope do
        match init with
        | some clause => clause.execRestoring context calls
        | none => pure ()
        loop context.options line do
          tick context.options line
          if ← Expr.evalTest context calls test then
            let completion ← body.execRestoring context calls
            match afterBody completion with
            | some final => return some final
            | none =>
                Expr.evalUpdate context calls update
                return none
          else return some .normal
  | .return_ line argument => restoring do
      atLine line
      returning context calls line argument
  | .break_ line => restoring do
      atLine line
      recordJump context line .break_
  | .continue_ line => restoring do
      atLine line
      recordJump context line .continue_

def Stmt.execAllRestoring (context : Context) (calls : Calls) : List Stmt → Machine Completion
  | [] => return .normal
  | statement :: others => do
      match ← statement.execRestoring context calls with
      | .normal => Stmt.execAllRestoring context calls others
      | completion => return completion

end

def Machine.enterRestoring (context : Context) (calls : Calls) (method : Method) (className : String)
    (arguments : List Value) : Machine Value := do
  let activation ← openScope globalScope
  bindParams activation method.params arguments
  let frame : Frame := { methodName := method.name, line := method.line, scope := (← get).current, className }
  runFrame frame activation (Stmt.execAllRestoring context calls method.body)

/-- Calls as the machine makes them, with room for so many more frames, of methods whose statements put back the line. -/
def Calls.restoring (context : Context) : Nat → Calls
  | 0 => Calls.within context 0
  | room + 1 =>
      { invoke := fun method className arguments line => do
          checkArguments method arguments line
          enterRestoring context (Calls.restoring context room) method className arguments
        instantiate := initialise context (Calls.restoring context room) }

/-- A run whose statements put back the line. No statement is in progress between static fields. -/
def Context.executeRestoring (context : Context) : Machine Unit := do
  declareClasses context.program.classes
  match context.program.entryPoint? with
  | none => fail .noEntryPoint
  | some main =>
      initializeStaticsBy context (Calls.restoring context (maxCallDepth - 1)) context.program.classes
      let outer := (← get).current
      let activation ← openScope globalScope
      let frame : Frame := { methodName := "main", line := main.line, scope := outer, className := "Main" }
      let _ ← runFrame frame activation
        (Stmt.execAllRestoring context (Calls.restoring context (maxCallDepth - 1)) main.body)

/-- The trace of a program, or the failure of its run with the line of the innermost statement in progress. -/
def Program.innermostTrace (program : Program) (options : Options) : Except Failure (List Step) :=
  match ({ options, program } : Context).executeRestoring.run State.initial with
  | .ok _ state => .ok state.steps.toList
  | .error failure state => .error (failure.attributed state.line)

def Coupling.exceptLine (context : Context) (failing : State → State → Prop) : Coupling where
  left := context
  right := context
  known _ := True
  agree _ one two := ∃ line, two = { one with line }
  own _ := True
  leads _ _ := True
  failing := failing
  stops _ := False
  leads_refl _ := trivial
  leads_trans _ _ := trivial

/-- The runs fail where they agree in all but the line noted. -/
abbrev Coupling.lines (context : Context) : Coupling :=
  .exceptLine context fun one two => ∃ line, two = { one with line }

namespace Coupling

theorem lines_laws (context : Context) : (lines context).Laws where
  program := rfl
  leads_of_same _ _ _ := trivial
  leads_noting _ _ := trivial
  failing agree := agree
  current := by
    rintro room one two ⟨line, rfl⟩
    rfl
  heap := by
    rintro room one two ⟨line, rfl⟩
    rfl
  classes := by
    rintro room one two ⟨line, rfl⟩
    rfl
  global _ := rfl
  size := by
    rintro room one two ⟨line, rfl⟩
    rfl
  resolve := by
    rintro room one two handle name - ⟨line, rfl⟩ -
    rfl
  lookup := by
    rintro room one two handle name - ⟨line, rfl⟩ -
    rfl
  assigned := by
    rintro room one two handle name value - ⟨line, rfl⟩ -
    exact .same fun _ _ _ => ⟨line, rfl⟩
  declared := by
    rintro room one two handle name value typeName ⟨line, rfl⟩ -
    apply Rescopes.same
    intro stored scopes _
    refine ⟨line, ?_⟩
    unfold State.noting
    split <;> rfl
  classDeclared := by
    rintro room one two decl ⟨line, rfl⟩ -
    exact .same fun _ _ _ => ⟨line, rfl⟩
  atLine := by
    rintro room one two line ⟨other, rfl⟩
    exact ⟨line, rfl⟩
  reheaped := by
    rintro room one two heap ⟨line, rfl⟩
    exact ⟨line, rfl⟩
  opened := by
    rintro room one two parent ⟨line, rfl⟩ -
    exact ⟨trivial, line, rfl⟩
  entered := by
    rintro room one two handle ⟨line, rfl⟩
    exact ⟨line, rfl⟩
  closed := by
    rintro room one two handle outer ⟨line, rfl⟩ -
    exact ⟨line, rfl⟩
  pushed := by
    rintro room one two frame ⟨line, rfl⟩
    exact ⟨line, rfl⟩
  popped := by
    rintro room before beside one two - ⟨line, rfl⟩
    exact ⟨line, rfl⟩
  record := by
    rintro room one two line console event ⟨⟨other, rfl⟩, current⟩
    exact runs_record line console event rfl rfl ⟨other, rfl⟩ trivial ⟨⟨⟨other, rfl⟩, current⟩, trivial⟩
  tick := by
    rintro room one two line ⟨⟨other, rfl⟩, current⟩
    exact runs_tick line rfl rfl ⟨other, rfl⟩ trivial ⟨⟨⟨other, rfl⟩, current⟩, trivial⟩

/-- Putting back the line on one side leaves states that agree in all but the line. -/
theorem executes_restoring {α : Type} {left right : Machine α} (executes : (lines context).Executes room left right) :
    (lines context).Executes room left (restoring right) := by
  intro one two ready known
  have alike := executes one two ready known
  change Alike _ _ _ ((do let result ← right; atLine two.line; pure result : Machine α).run two)
  rw [Machine.run_bind]
  generalize left.run one = first at alike ⊢
  generalize right.run two = second at alike ⊢
  cases alike with
  | failed agree => exact .failed agree
  | stopped stops => exact .stopped stops
  | completed finished =>
      obtain ⟨leads, further, holds⟩ := finished
      exact .completed ⟨leads, ⟨(lines_laws context).atLine two.line further.agree, further.current⟩, holds⟩

section Statements

variable {left right : Calls} (couples : (lines context).CouplesCalls room left right)

theorem executes_allRestoring {statements : List Stmt}
    (executes : ∀ statement ∈ statements,
      (lines context).Executes room (statement.exec context left) (statement.execRestoring context right)) :
    (lines context).Executes room (Stmt.execAll context left statements)
      (Stmt.execAllRestoring context right statements) := by
  induction statements with
  | nil =>
      rw [Stmt.execAll.eq_def, Stmt.execAllRestoring.eq_def]
      exact .yields _
  | cons statement others hypothesis =>
      rw [Stmt.execAll.eq_def, Stmt.execAllRestoring.eq_def]
      apply (executes statement List.mem_cons_self).seq
      intro completion
      cases completion with
      | normal => exact hypothesis fun other member => executes other (List.mem_cons_of_mem _ member)
      | jump jump => exact .yields _
      | returned value => exact .yields _

theorem executes_rounds {restLeft restRight : Machine (Option Completion)} (line : Nat)
    (executes : (lines context).Executes room restLeft restRight) :
    (lines context).Executes room (loop context.options line (tick context.options line >>= fun _ => restLeft))
      (loop context.options line (tick context.options line >>= fun _ => restRight)) :=
  executes_repeated (lines_laws context) line _ _ ((executes_tick (lines_laws context) line).seq fun _ => executes)

include couples

theorem executes_forRestoring {init : Option ForInit} {test update : Option Expr} {body : Stmt} (line : Nat)
    (executes : (lines context).Executes room (body.exec context left) (body.execRestoring context right)) :
    (lines context).Executes room (Stmt.exec context left (.for_ line init test update body))
      (Stmt.execRestoring context right (.for_ line init test update body)) := by
  have laws := lines_laws context
  rw [Stmt.exec.eq_def, Stmt.execRestoring.eq_def]
  apply executes_restoring
  apply (executes_atLine laws line).seq
  intro _
  apply executes_inScope laws
  extract_lets roundsLeft roundsRight
  have loops : ∀ entry, (lines context).Executes room (roundsLeft entry) (roundsRight entry) := by
    intro entry
    apply executes_rounds line
    apply (executes_test laws couples test).seq
    intro decided
    split
    · apply executes.seq
      intro completion
      cases afterBody completion with
      | some final => exact .yields _
      | none => exact (executes_update laws couples update).seq fun _ => .yields _
    · exact .yields _
  cases init with
  | some clause => exact (executes_restoring (executes_forInit laws couples clause)).seq loops
  | none => exact loops ()

/-- A statement does the same whether or not it puts back the line, apart from the line. -/
theorem executes_statementRestoring (statement : Stmt) :
    (lines context).Executes room (statement.exec context left) (statement.execRestoring context right) := by
  have laws := lines_laws context
  induction statement using Stmt.induction with
  | declare declaration =>
      rw [Stmt.exec.eq_def, Stmt.execRestoring.eq_def]
      apply executes_restoring
      exact (executes_declaration laws couples declaration).seq fun _ => .yields _
  | evaluate line expression =>
      rw [Stmt.exec.eq_def, Stmt.execRestoring.eq_def]
      apply executes_restoring
      apply (executes_atLine laws line).seq
      intro _
      exact (executes_expression laws couples expression).seq fun _ => .yields _
  | block line body hypothesis =>
      rw [Stmt.exec.eq_def, Stmt.execRestoring.eq_def]
      apply executes_restoring
      apply (executes_atLine laws line).seq
      intro _
      exact executes_inScope laws (executes_allRestoring hypothesis)
  | ifThen line test consequent hypothesis =>
      rw [Stmt.exec.eq_def, Stmt.execRestoring.eq_def]
      apply executes_restoring
      apply (executes_atLine laws line).seq
      intro _
      apply (executes_condition laws couples test).seq
      intro decided
      split
      · exact hypothesis
      · exact .yields _
  | ifElse line test consequent alternate first second =>
      rw [Stmt.exec.eq_def, Stmt.execRestoring.eq_def]
      apply executes_restoring
      apply (executes_atLine laws line).seq
      intro _
      apply (executes_condition laws couples test).seq
      intro decided
      split
      · exact first
      · exact second
  | while_ line test body hypothesis =>
      rw [Stmt.exec.eq_def, Stmt.execRestoring.eq_def]
      apply executes_restoring
      apply (executes_atLine laws line).seq
      intro _
      apply executes_rounds line
      apply (executes_condition laws couples test).seq
      intro decided
      split
      · exact hypothesis.seq fun _ => .yields _
      · exact .yields _
  | doWhile line test body hypothesis =>
      rw [Stmt.exec.eq_def, Stmt.execRestoring.eq_def]
      apply executes_restoring
      apply (executes_atLine laws line).seq
      intro _
      apply executes_rounds line
      apply hypothesis.seq
      intro completion
      cases afterBody completion with
      | some final => exact .yields _
      | none =>
          apply (executes_condition laws couples test).seq
          intro decided
          split
          · exact .yields _
          · exact .yields _
  | for_ line init test update body hypothesis => exact executes_forRestoring couples line hypothesis
  | return_ line argument =>
      rw [Stmt.exec.eq_def, Stmt.execRestoring.eq_def]
      apply executes_restoring
      apply (executes_atLine laws line).seq
      exact fun _ => executes_returning laws couples line argument
  | break_ line =>
      rw [Stmt.exec.eq_def, Stmt.execRestoring.eq_def]
      apply executes_restoring
      exact (executes_atLine laws line).seq fun _ => executes_recordJump laws line .break_
  | continue_ line =>
      rw [Stmt.exec.eq_def, Stmt.execRestoring.eq_def]
      apply executes_restoring
      exact (executes_atLine laws line).seq fun _ => executes_recordJump laws line .continue_

theorem executes_statementsRestoring (statements : List Stmt) :
    (lines context).Executes room (Stmt.execAll context left statements)
      (Stmt.execAllRestoring context right statements) :=
  executes_allRestoring fun statement _ => executes_statementRestoring couples statement

end Statements

theorem runs_enterRestoring {one two : State} {left right : Calls} (couples : (lines context).CouplesCalls room left right)
    (method : Method) (className : String) (arguments : List Value) (agree : (lines context).agree (room + 1) one two) :
    (lines context).Runs one two (enterMethod context (.ofCalls context left) method className arguments)
      (enterRestoring context right method className arguments)
      fun oneEnd twoEnd _ => (lines context).agree (room + 1) oneEnd twoEnd ∧ oneEnd.current = one.current := by
  have executes := executes_statementsRestoring couples method.body
  rw [enterMethod, Stmt.execAllBy_ofCalls]
  exact runs_enterWith (lines_laws context) method className arguments executes agree

theorem couplesCalls_restoring (room : Nat) :
    (lines context).CouplesCalls room (Calls.within context room) (Calls.restoring context room) := by
  have laws := lines_laws context
  induction room with
  | zero =>
      rw [Calls.restoring]
      exact couplesCalls_within laws nofun
  | succ room hypothesis =>
      constructor
      · intro one two method className arguments line ready
        rw [Calls.invoke_within_succ, Calls.restoring]
        apply (runs_checkArguments laws method arguments line ready.agree).seq
        rintro - oneSame twoSame ⟨rfl, rfl⟩
        exact (runs_enterRestoring hypothesis method className arguments ready.agree).couples ready
      · intro one two decl ready
        rw [Calls.instantiate_within_succ, Calls.restoring]
        exact (runs_initialise laws hypothesis decl ready.agree).couples ready

theorem runs_executeRestoring (context : Context) :
    (lines context).Runs State.initial State.initial context.execute context.executeRestoring
      fun oneEnd twoEnd _ => (lines context).agree maxCallDepth oneEnd twoEnd := by
  have laws := lines_laws context
  have couples : (lines context).CouplesCalls _ _ _ := couplesCalls_restoring (maxCallDepth - 1)
  have supports : (lines context).Supports (maxCallDepth - 1) (.within context (maxCallDepth - 1))
      (.ofCalls context (Calls.restoring context (maxCallDepth - 1))) := ⟨couples, executes_rounds⟩
  have agree : (lines context).agree maxCallDepth State.initial State.initial := ⟨0, rfl⟩
  rw [← Context.executeBy_within, Context.executeBy, Context.executeRestoring]
  apply (runs_declareClasses laws (fun _ member => member) agree).seq
  intro _ oneNext twoNext declared
  obtain ⟨further, same⟩ := declared
  cases context.program.entryPoint? with
  | none => exact .fails (laws.failing further)
  | some main =>
      have global : (lines context).shared oneNext.current := .inl same
      apply Runs.seq (executes_initializeStaticsBy laws supports context.program.classes _ _ ⟨further, global⟩)
      intro _ oneReady twoReady done
      have deep : (lines context).agree (maxCallDepth - 1 + 1) oneReady twoReady := done.1.agree
      have executes := executes_statementsRestoring couples main.body
      apply Runs.look
      rw [laws.current deep]
      apply runs_openScope_seq laws deep (opens_global laws deep)
      intro oneOpen twoOpen activation opened own _
      rw [Evaluator.within, Stmt.execAllBy_ofCalls]
      apply (runs_runFrame laws _ executes opened own).seq
      intro _ oneLast twoLast last
      exact .yields last.1

end Coupling

/-- Two outcomes of a run that differ at most in the line of an issue that has none of its own. -/
inductive DifferInLine : Except Failure (List Step) → Except Failure (List Step) → Prop
  | traced (steps : List Step) : DifferInLine (.ok steps) (.ok steps)
  | failed (failure : Failure) (noted innermost : Nat) :
      DifferInLine (.error (failure.attributed noted)) (.error (failure.attributed innermost))

theorem Program.differInLine (program : Program) (options : Options) :
    DifferInLine (program.trace options) (program.innermostTrace options) := by
  have alike := Coupling.runs_executeRestoring { options, program } fun _ _ => trivial
  unfold Program.trace Program.innermostTrace
  generalize (Context.mk options program).execute.run State.initial = first at alike ⊢
  generalize (Context.mk options program).executeRestoring.run State.initial = second at alike ⊢
  cases alike with
  | completed finished =>
      obtain ⟨-, line, rfl⟩ := finished
      exact .traced _
  | failed agree => exact .failed _ _ _
  | stopped stops => exact stops.elim

end Stepwise
