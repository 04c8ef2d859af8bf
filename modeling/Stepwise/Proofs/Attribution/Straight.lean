import Stepwise.Proofs.Attribution
import Stepwise.Proofs.Discipline.Expression

/-!
# Programs whose issues are attributed to the right line
-/

namespace Stepwise

set_option autoImplicit false

open Machine

variable {context : Context}

/-- No method is called, but perhaps one of the console. -/
def Expr.callsNoMethod : Expr → Bool
  | .call _ callee _ => callee.consoleMethod?.isSome
  | _ => true

mutual

def Stmt.isStraight : Stmt → Bool
  | .declare _ | .evaluate .. | .return_ .. => true
  | .block _ body => Stmt.areStraight body
  | .ifThen _ _ consequent => consequent.isStraight
  | .ifElse _ _ consequent alternate => consequent.isStraight && alternate.isStraight
  | .while_ .. | .doWhile .. | .for_ .. | .break_ _ | .continue_ _ => false

def Stmt.areStraight : List Stmt → Bool
  | [] => true
  | statement :: others => statement.isStraight && Stmt.areStraight others

end

/-- No expression calls a method, and the statements of methods have neither loops nor jumps. -/
def Program.isStraight (program : Program) : Bool :=
  program.expressions.all Expr.callsNoMethod &&
    program.classes.all fun decl => decl.methodDeclarations.all fun method => Stmt.areStraight method.body

section Straight

variable {calls other : Calls}
  (same : ∀ name decl, context.program.class? name = some decl → calls.instantiate decl = other.instantiate decl)

theorem Expr.evalAll_congr {expressions : List Expr}
    (evaluated : ∀ expression ∈ expressions, expression.eval context calls = expression.eval context other) :
    Expr.evalAll context calls expressions = Expr.evalAll context other expressions := by
  induction expressions with
  | nil => rw [Expr.evalAll, Expr.evalAll]
  | cons first others hypothesis =>
      rw [List.forall_mem_cons] at evaluated
      rw [Expr.evalAll, Expr.evalAll, evaluated.1, hypothesis evaluated.2]

theorem Expr.evalElements_congr {expressions : List Expr}
    (evaluated : ∀ expression ∈ expressions, expression.eval context calls = expression.eval context other)
    (elementType : String) :
    Expr.evalElements context calls elementType expressions =
      Expr.evalElements context other elementType expressions := by
  induction expressions with
  | nil => rw [Expr.evalElements, Expr.evalElements]
  | cons first others hypothesis =>
      rw [List.forall_mem_cons] at evaluated
      rw [Expr.evalElements, Expr.evalElements, evaluated.1, hypothesis evaluated.2]

include same

theorem Machine.makeObject_congr (line : Nat) (className : String) :
    makeObject context calls line className = makeObject context other line className := by
  unfold makeObject
  cases found : context.program.class? className with
  | none => rfl
  | some decl =>
      dsimp only
      rw [same className decl found]

/-- Where objects are made alike, an expression that calls no method is evaluated alike, and located alike. -/
theorem Expr.eval_congr (expression : Expr) (known : ∀ part ∈ expression.parts, part.callsNoMethod = true) :
    expression.eval context calls = expression.eval context other ∧
      expression.locate context calls = expression.locate context other := by
  induction expression using Expr.induction with
  | binary line left operator right first second
  | logical line left operator right first second =>
      rw [Expr.parts.eq_def, List.forall_mem_cons, List.forall_mem_append] at known
      obtain ⟨-, inLeft, inRight⟩ := known
      simp only [Expr.eval, Expr.locate, first inLeft, second inRight, and_self]
  | unary line operator argument inner =>
      rw [Expr.parts.eq_def, List.forall_mem_cons] at known
      simp only [Expr.eval, Expr.locate, inner known.2, and_self]
  | conditional line test consequent alternate condition first second =>
      rw [Expr.parts.eq_def, List.forall_mem_cons, List.forall_mem_append, List.forall_mem_append] at known
      obtain ⟨-, ⟨inTest, inFirst⟩, inSecond⟩ := known
      simp only [Expr.eval, Expr.locate, condition inTest, first inFirst, second inSecond, and_self]
  | assign line target value located evaluated
  | compound line target operator value located evaluated =>
      rw [Expr.parts.eq_def, List.forall_mem_cons, List.forall_mem_append] at known
      obtain ⟨-, inTarget, inValue⟩ := known
      simp only [Expr.eval, Expr.locate, located inTarget, evaluated inValue, and_self]
  | field line object nameLine name inner =>
      rw [Expr.parts.eq_def, List.forall_mem_cons] at known
      simp only [Expr.eval, Expr.locate, inner known.2, and_self]
  | index line object position container number =>
      rw [Expr.parts.eq_def, List.forall_mem_cons, List.forall_mem_append] at known
      obtain ⟨-, inObject, inPosition⟩ := known
      simp only [Expr.eval, Expr.locate, container inObject, number inPosition, and_self]
  | call line callee arguments called passed =>
      rw [Expr.parts.eq_def, List.forall_mem_cons, List.forall_mem_append, Expr.forall_mem_partsAll] at known
      obtain ⟨console, -, inArguments⟩ := known
      obtain ⟨symbol, found⟩ := Option.isSome_iff_exists.mp console
      have values := Expr.evalAll_congr fun argument member =>
        (passed argument member (inArguments argument member)).1
      constructor
      · rw [Expr.eval.eq_def, Expr.eval.eq_def context other]
        simp only [found, values]
      · simp only [Expr.locate]
  | create line className => simp only [Expr.eval, Expr.locate, Machine.makeObject_congr same, and_self]
  | newArray line elementType size inner =>
      rw [Expr.parts.eq_def, List.forall_mem_cons] at known
      simp only [Expr.eval, Expr.locate, inner known.2, and_self]
  | arrayOf line elementType values inner =>
      rw [Expr.parts.eq_def, List.forall_mem_cons, Expr.forall_mem_partsAll] at known
      have items := Expr.evalElements_congr fun value member => (inner value member (known.2 value member)).1
      simp only [Expr.eval, Expr.locate, items, and_self]
  | int | double | bool | string | char | null | name | update => simp only [Expr.eval, Expr.locate, and_self]

theorem Expr.evalCondition_congr {test : Expr} (known : ∀ part ∈ test.parts, part.callsNoMethod = true) :
    test.evalCondition context calls = test.evalCondition context other := by
  rw [evalCondition, evalCondition, (eval_congr same test known).1]

theorem Declaration.eval_congr (declaration : Declaration)
    (known : ∀ part ∈ declaration.expressions, part.callsNoMethod = true) :
    declaration.eval context calls = declaration.eval context other := by
  unfold expressions at known
  unfold Declaration.eval
  split
  · rfl
  · next line elementType values given =>
      rw [given, Expr.partsOf, Expr.parts.eq_def, List.forall_mem_cons, Expr.forall_mem_partsAll] at known
      have items := Expr.evalElements_congr fun value member => (Expr.eval_congr same value (known.2 value member)).1
      simp only [items]
  · next value _ given =>
      rw [given] at known
      exact (Expr.eval_congr same value known).1

theorem Declaration.exec_congr (declaration : Declaration)
    (known : ∀ part ∈ declaration.expressions, part.callsNoMethod = true) :
    declaration.exec context calls = declaration.exec context other := by
  rw [exec, exec, eval_congr same declaration known]

theorem Machine.returning_congr (line : Nat) (argument : Option Expr)
    (known : ∀ part ∈ Expr.partsOf argument, part.callsNoMethod = true) :
    returning context calls line argument = returning context other line argument := by
  unfold returning
  cases argument with
  | none => rfl
  | some expression => simp only [(Expr.eval_congr same expression known).1]

theorem Machine.initialFields_congr {declarations : List Declaration} {fields : List (String × Value)}
    (known : ∀ declaration ∈ declarations, ∀ part ∈ declaration.expressions, part.callsNoMethod = true) :
    initialFields context calls fields declarations = initialFields context other fields declarations := by
  induction declarations generalizing fields with
  | nil => rfl
  | cons declaration others hypothesis =>
      rw [List.forall_mem_cons] at known
      have inner := known.1
      unfold Declaration.expressions at inner
      rw [initialFields, initialFields]
      cases given : declaration.value with
      | none => simp only [hypothesis known.2]
      | some expression =>
          rw [given] at inner
          simp only [(Expr.eval_congr same expression inner).1, hypothesis known.2]

theorem Machine.declareAllBy_congr {declarations : List Declaration}
    (known : ∀ declaration ∈ declarations, ∀ part ∈ declaration.expressions, part.callsNoMethod = true) :
    declareAllBy context calls declarations = declareAllBy context other declarations := by
  induction declarations with
  | nil => rfl
  | cons declaration others hypothesis =>
      rw [List.forall_mem_cons] at known
      rw [declareAllBy, declareAllBy, Declaration.exec_congr same declaration known.1, hypothesis known.2]

theorem Machine.initializeStaticsBy_congr {decls : List ClassDecl}
    (known : ∀ decl ∈ decls, ∀ part ∈ decl.expressions, part.callsNoMethod = true) :
    initializeStaticsBy context calls decls = initializeStaticsBy context other decls := by
  induction decls with
  | nil => rfl
  | cons decl decls hypothesis =>
      rw [List.forall_mem_cons] at known
      have fields : declareAllBy context calls decl.staticFields = declareAllBy context other decl.staticFields :=
        declareAllBy_congr same fun declaration member =>
          ClassDecl.expressions_of_field known.1 (List.mem_filter.mp member).1
      rw [initializeStaticsBy, initializeStaticsBy, fields, hypothesis known.2]

end Straight

theorem Calls.instantiate_restoring (known : ∀ part ∈ context.program.expressions, part.callsNoMethod = true)
    (room : Nat) {name : String} {decl : ClassDecl} (found : context.program.class? name = some decl) :
    (Calls.within context room).instantiate decl = (Calls.restoring context room).instantiate decl := by
  induction room generalizing name decl with
  | zero => rw [Calls.restoring]
  | succ room hypothesis =>
      have knownHere := Program.expressions_of_mem known (Program.class?_eq_some found).2
      have fields : ∀ fields, initialFields context (Calls.within context room) fields decl.instanceFields =
          initialFields context (Calls.restoring context room) fields decl.instanceFields := fun fields =>
        initialFields_congr (fun _ _ => hypothesis) fun declaration member =>
          ClassDecl.expressions_of_field knownHere (List.mem_filter.mp member).1
      rw [Calls.instantiate_within_succ, Calls.restoring]
      simp only [initialise, fields]

abbrev Coupling.exact (context : Context) : Coupling :=
  .exceptLine context Eq

namespace Coupling

variable {α β : Type} {one two : State}

/-- Two computations, begun in states that agree in all but the line, fail in the same state, or complete as told in
states that agree in all but the line. -/
def Tracks (context : Context) (left right : Machine α) (required : α → Prop) : Prop :=
  ∀ one two, (∃ line, two = { one with line }) →
    (exact context).Runs one two left right fun oneEnd twoEnd result =>
      (∃ line, twoEnd = { oneEnd with line }) ∧ required result

theorem runs_itself (computation : Machine α) :
    (exact context).Runs one one computation computation fun oneEnd twoEnd _ => oneEnd = twoEnd := by
  intro _
  cases computation.run one with
  | ok result final => exact .completed ⟨fun _ _ => trivial, rfl⟩
  | error failure final => exact .failed rfl

theorem tracks_restoring {left right : Machine α} {required : α → Prop} (tracks : Tracks context left right required) :
    Tracks context left (restoring right) required := by
  intro one two agree known
  have alike := tracks one two agree known
  change Alike _ _ _ ((do let result ← right; atLine two.line; pure result : Machine α).run two)
  rw [Machine.run_bind]
  generalize left.run one = first at alike ⊢
  generalize right.run two = second at alike ⊢
  cases alike with
  | failed same => exact .failed same
  | stopped stops => exact .stopped stops
  | completed finished =>
      obtain ⟨leads, ⟨line, rfl⟩, holds⟩ := finished
      exact .completed ⟨leads, ⟨two.line, rfl⟩, holds⟩

theorem tracks_atLine {left right : Machine α} {required : α → Prop} (line : Nat)
    (runs : ∀ state, (exact context).Runs state state left right fun oneEnd twoEnd result =>
      (∃ line, twoEnd = { oneEnd with line }) ∧ required result) :
    Tracks context (atLine line >>= fun _ => left) (atLine line >>= fun _ => right) required := by
  rintro one two ⟨other, rfl⟩
  exact Runs.change_seq trivial (runs { one with line })

theorem Tracks.runs {left right : Machine α} {required : α → Prop} (tracks : Tracks context left right required)
    (state : State) :
    (exact context).Runs state state left right fun oneEnd twoEnd result =>
      (∃ line, twoEnd = { oneEnd with line }) ∧ required result :=
  tracks state state ⟨state.line, rfl⟩

end Coupling

def Completion.IsSettled : Completion → Prop
  | .jump _ => False
  | _ => True

namespace Coupling

variable {one two : State}

theorem runs_leaveScope_line (handle outer line : Nat) :
    (exact context).Runs one { one with line } (leaveScope handle outer) (leaveScope handle outer)
      fun oneEnd twoEnd _ => ∃ line, twoEnd = { oneEnd with line } :=
  .mark_seq (.change trivial ⟨line, rfl⟩)

theorem tracks_inScope {left right : Machine Completion} {required : Completion → Prop}
    (tracks : Tracks context left right required) (state : State) :
    (exact context).Runs state state (inScope left) (inScope right) fun oneEnd twoEnd result =>
      (∃ line, twoEnd = { oneEnd with line }) ∧ required result := by
  apply Runs.look
  apply (runs_itself _).seq
  rintro handle opened _ rfl
  apply Runs.change_seq trivial
  apply (tracks.runs _).seq
  rintro completion oneNext twoNext ⟨⟨line, rfl⟩, holds⟩
  apply (runs_leaveScope_line handle state.current line).seq
  intro _ oneLast twoLast agree
  exact .yields ⟨agree, holds⟩

section Statements

variable {calls other : Calls}
  (same : ∀ name decl, context.program.class? name = some decl → calls.instantiate decl = other.instantiate decl)

theorem tracks_allRestoring {statements : List Stmt}
    (tracks : ∀ statement ∈ statements,
      Tracks context (statement.exec context calls) (statement.execRestoring context other) Completion.IsSettled) :
    Tracks context (Stmt.execAll context calls statements) (Stmt.execAllRestoring context other statements)
      Completion.IsSettled := by
  induction statements with
  | nil =>
      intro one two agree
      rw [Stmt.execAll.eq_def, Stmt.execAllRestoring.eq_def]
      exact .yields ⟨agree, trivial⟩
  | cons statement others hypothesis =>
      intro one two agree
      rw [List.forall_mem_cons] at tracks
      rw [Stmt.execAll.eq_def, Stmt.execAllRestoring.eq_def]
      apply (tracks.1 one two agree).seq
      intro completion oneNext twoNext done
      cases completion with
      | normal => exact hypothesis tracks.2 oneNext twoNext done.1
      | jump jump => exact done.2.elim
      | returned value => exact .yields done

theorem areStraight_iff {statements : List Stmt} :
    Stmt.areStraight statements = true ↔ ∀ statement ∈ statements, statement.isStraight = true := by
  induction statements with
  | nil => simp [Stmt.areStraight]
  | cons statement others hypothesis => simp [Stmt.areStraight, hypothesis]

theorem tracks_declaration (declaration : Declaration) :
    Tracks context (declaration.exec context calls) (declaration.exec context calls) fun _ => True := by
  rw [Declaration.exec]
  apply tracks_atLine
  intro state
  apply (runs_itself _).imp
  rintro last _ result rfl
  exact ⟨⟨last.line, rfl⟩, trivial⟩

theorem runs_returning (line : Nat) (argument : Option Expr) (state : State) :
    (exact context).Runs state state (returning context calls line argument) (returning context calls line argument)
      fun oneEnd twoEnd result => (∃ line, twoEnd = { oneEnd with line }) ∧ result.IsSettled := by
  have finish : ∀ (value : Value) (reached : State),
      (exact context).Runs reached reached
        (record context.options line none (some .return_) >>= fun _ => pure (Completion.returned value))
        (record context.options line none (some .return_) >>= fun _ => pure (Completion.returned value))
        fun oneEnd twoEnd result => (∃ line, twoEnd = { oneEnd with line }) ∧ result.IsSettled := by
    intro value reached
    apply (runs_itself _).seq
    rintro _ last _ rfl
    exact .yields ⟨⟨last.line, rfl⟩, trivial⟩
  unfold returning
  cases argument with
  | none => exact .yields_seq (finish .void state)
  | some expression =>
      apply (runs_itself _).seq
      rintro value reached _ rfl
      exact finish value reached

include same

theorem runs_branch {test : Expr} {yes no otherYes otherNo : Machine Completion}
    (known : ∀ part ∈ test.parts, part.callsNoMethod = true)
    (tracksYes : Tracks context yes otherYes Completion.IsSettled)
    (tracksNo : Tracks context no otherNo Completion.IsSettled) (state : State) :
    (exact context).Runs state state
      (test.evalCondition context calls >>= fun decided => if decided = true then yes else no)
      (test.evalCondition context other >>= fun decided => if decided = true then otherYes else otherNo)
      fun oneEnd twoEnd result => (∃ line, twoEnd = { oneEnd with line }) ∧ result.IsSettled := by
  rw [Expr.evalCondition_congr same known]
  apply (runs_itself _).seq
  rintro decided reached _ rfl
  split
  · exact tracksYes.runs reached
  · exact tracksNo.runs reached

omit same in
theorem tracks_normal : Tracks context (pure .normal) (pure .normal) Completion.IsSettled :=
  fun _ _ agree => .yields ⟨agree, trivial⟩

/-- A straight statement that calls no method fails in the same state whether or not statements put back the line. -/
theorem tracks_statement (statement : Stmt) (straight : statement.isStraight = true)
    (known : ∀ part ∈ statement.expressions, part.callsNoMethod = true) :
    Tracks context (statement.exec context calls) (statement.execRestoring context other) Completion.IsSettled := by
  induction statement using Stmt.induction with
  | declare declaration =>
      rw [Stmt.expressions] at known
      rw [Stmt.exec.eq_def, Stmt.execRestoring.eq_def]
      apply tracks_restoring
      dsimp only
      rw [Declaration.exec_congr same declaration known]
      intro one two agree
      apply (tracks_declaration declaration one two agree).seq
      intro _ oneNext twoNext done
      exact .yields ⟨done.1, trivial⟩
  | evaluate line expression =>
      rw [Stmt.expressions] at known
      rw [Stmt.exec.eq_def, Stmt.execRestoring.eq_def]
      apply tracks_restoring
      apply tracks_atLine
      intro state
      rw [(Expr.eval_congr same expression known).1]
      apply (runs_itself _).seq
      rintro value reached _ rfl
      exact .yields ⟨⟨_, rfl⟩, trivial⟩
  | block line body hypothesis =>
      rw [Stmt.isStraight, areStraight_iff] at straight
      rw [Stmt.expressions, Stmt.forall_mem_expressionsAll] at known
      rw [Stmt.exec.eq_def, Stmt.execRestoring.eq_def]
      apply tracks_restoring
      apply tracks_atLine
      exact tracks_inScope (tracks_allRestoring fun statement member =>
        hypothesis statement member (straight statement member) (known statement member))
  | ifThen line test consequent hypothesis =>
      rw [Stmt.isStraight] at straight
      rw [Stmt.expressions, List.forall_mem_append] at known
      rw [Stmt.exec.eq_def, Stmt.execRestoring.eq_def]
      apply tracks_restoring
      apply tracks_atLine
      exact runs_branch same known.1 (hypothesis straight known.2) (tracks_normal)
  | ifElse line test consequent alternate first second =>
      rw [Stmt.isStraight, Bool.and_eq_true] at straight
      rw [Stmt.expressions, List.forall_mem_append, List.forall_mem_append] at known
      rw [Stmt.exec.eq_def, Stmt.execRestoring.eq_def]
      apply tracks_restoring
      apply tracks_atLine
      exact runs_branch same known.1.1 (first straight.1 known.1.2) (second straight.2 known.2)
  | return_ line argument =>
      rw [Stmt.expressions] at known
      rw [Stmt.exec.eq_def, Stmt.execRestoring.eq_def]
      apply tracks_restoring
      apply tracks_atLine
      intro state
      rw [returning_congr same line argument known]
      exact runs_returning line argument state
  | while_ | doWhile | for_ | break_ | continue_ => cases straight

end Statements

theorem tracks_statements {calls other : Calls} {statements : List Stmt}
    (same : ∀ name decl, context.program.class? name = some decl → calls.instantiate decl = other.instantiate decl)
    (straight : Stmt.areStraight statements = true)
    (known : ∀ part ∈ Stmt.expressionsAll statements, part.callsNoMethod = true) :
    Tracks context (Stmt.execAll context calls statements) (Stmt.execAllRestoring context other statements)
      Completion.IsSettled := by
  rw [areStraight_iff] at straight
  rw [Stmt.forall_mem_expressionsAll] at known
  exact tracks_allRestoring fun statement member =>
    tracks_statement same statement (straight statement member) (known statement member)

theorem runs_frame {left right : Machine Completion} (tracks : Tracks context left right Completion.IsSettled)
    (frame : Frame) (activation : Nat) (state : State) :
    (exact context).Runs state state (runFrame frame activation left) (runFrame frame activation right)
      fun oneEnd twoEnd _ => ∃ line, twoEnd = { oneEnd with line } := by
  apply Runs.change_seq trivial
  apply Runs.change_seq trivial
  apply (tracks.runs _).seq
  rintro completion oneNext twoNext ⟨⟨line, rfl⟩, settled⟩
  have leaves : ∀ value : Value, (exact context).Runs oneNext { oneNext with line }
      (popFrame >>= fun _ => leaveScope activation frame.scope >>= fun _ => pure value)
      (popFrame >>= fun _ => leaveScope activation frame.scope >>= fun _ => pure value)
      fun oneEnd twoEnd _ => ∃ line, twoEnd = { oneEnd with line } := by
    intro value
    apply Runs.change_seq trivial
    apply (runs_leaveScope_line activation frame.scope line).seq
    intro _ oneLast twoLast agree
    exact .yields agree
  cases completion with
  | normal => exact .yields_seq (leaves .void)
  | returned value => exact .yields_seq (leaves value)
  | jump jump => exact settled.elim

/-- The run of a straight program fails in the same state whether or not its statements put back the line. -/
theorem runs_straight (straight : context.program.isStraight = true) :
    (exact context).Runs State.initial State.initial context.execute context.executeRestoring
      fun oneEnd twoEnd _ => ∃ line, twoEnd = { oneEnd with line } := by
  rw [Program.isStraight, Bool.and_eq_true, List.all_eq_true, List.all_eq_true] at straight
  obtain ⟨known, methods⟩ := straight
  have same : ∀ name decl, context.program.class? name = some decl →
      (Calls.outermost context).instantiate decl = (Calls.restoring context (maxCallDepth - 1)).instantiate decl :=
    fun _ _ => Calls.instantiate_restoring known (maxCallDepth - 1)
  have statics : initializeStatics context context.program.classes =
      initializeStaticsBy context (Calls.restoring context (maxCallDepth - 1)) context.program.classes := by
    rw [← initializeStaticsBy_outermost]
    exact initializeStaticsBy_congr same fun decl member => Program.expressions_of_mem known member
  rw [Context.execute, Context.executeRestoring, statics]
  apply (runs_itself _).seq
  rintro _ declared _ rfl
  cases entry : context.program.entryPoint? with
  | none => exact .fails rfl
  | some main =>
      obtain ⟨decl, found, chosen⟩ := Option.bind_eq_some_iff.mp entry
      have member := (Program.class?_eq_some found).2
      have inside := (ClassDecl.method?_eq_some chosen).2
      have body := ClassDecl.expressions_of_method? (Program.expressions_of_mem known member) chosen
      have tracks := tracks_statements same (List.all_eq_true.mp (methods decl member) main inside) body
      apply (runs_itself _).seq
      rintro _ ready _ rfl
      apply Runs.look
      apply (runs_itself _).seq
      rintro activation opened _ rfl
      apply (runs_frame tracks _ activation opened).seq
      intro _ oneLast twoLast agree
      exact .yields agree

end Coupling

theorem Program.trace_eq_innermostTrace {program : Program} (straight : program.isStraight = true) (options : Options) :
    program.trace options = program.innermostTrace options := by
  have alike := @Coupling.runs_straight { options, program } straight fun _ _ => trivial
  unfold Program.trace Program.innermostTrace
  generalize (Context.mk options program).execute.run State.initial = first at alike ⊢
  generalize (Context.mk options program).executeRestoring.run State.initial = second at alike ⊢
  cases alike with
  | completed finished =>
      obtain ⟨-, line, rfl⟩ := finished
      rfl
  | failed same =>
      cases same
      rfl
  | stopped stops => exact stops.elim

/-- A run differs from one that tells of every issue the line of the innermost statement in progress at most in that
line, and does not differ if its program calls no method and has neither loops nor jumps. -/
theorem trace_attributes (program : Program) (options : Options) :
    DifferInLine (program.trace options) (program.innermostTrace options) ∧
      (program.isStraight = true → program.trace options = program.innermostTrace options) :=
  ⟨program.differInLine options, fun straight => Program.trace_eq_innermostTrace straight options⟩

def failureOf {α : Type} : Except Failure α → Option Failure
  | .ok _ => none
  | .error failure => some failure

/-- A variable that is not declared, on the line of a straight statement. -/
def Program.ofUndeclared : Program where
  classes := [⟨1, "Main", [.method ⟨2, "void", "main", [],
    [.declare ⟨3, "int", "x", some (.name 3 "y"), false⟩]⟩]⟩]

theorem undeclared_attributed :
    Program.ofUndeclared.isStraight = true ∧
      failureOf (Program.ofUndeclared.innermostTrace ⟨9, .local_⟩) = some (.onLine 3 (.unknownName "y")) ∧
      Program.ofUndeclared.trace ⟨9, .local_⟩ = Program.ofUndeclared.innermostTrace ⟨9, .local_⟩ := by
  have straight : Program.ofUndeclared.isStraight = true := by decide +kernel
  exact ⟨straight, by decide +kernel, (trace_attributes Program.ofUndeclared ⟨9, .local_⟩).2 straight⟩

/-- A variable that is not declared, on line six, behind a call whose return statement stands on line three. -/
def Program.ofCallBefore : Program where
  classes := [⟨1, "Main",
    [.method ⟨2, "int", "f", [], [.return_ 3 (some (.int 3 1))]⟩,
      .method ⟨5, "void", "main", [],
        [.declare ⟨6, "int", "x", some (.binary 6 (.call 6 (.name 6 "f") []) "+" (.name 6 "y")), false⟩]⟩]⟩]

/-- An issue may be attributed to a line that is not that of the innermost statement in progress. -/
theorem trace_misattributes :
    ¬∀ (program : Program) (options : Options), program.trace options = program.innermostTrace options := by
  intro attributed
  have noted : failureOf (Program.ofCallBefore.trace ⟨9, .local_⟩) = some (.onLine 3 (.unknownName "y")) := by
    decide +kernel
  have innermost : failureOf (Program.ofCallBefore.innermostTrace ⟨9, .local_⟩) = some (.onLine 6 (.unknownName "y")) := by
    decide +kernel
  rw [attributed, innermost] at noted
  cases noted

end Stepwise
