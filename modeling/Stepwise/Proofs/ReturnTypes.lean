import Stepwise.Proofs.FieldTypes

/-!
# Methods and their declared return types

A value that is returned leaves blocks, branches and loops as part of a completion, and the frame of its method as the
value of the call. Nothing on this way touches it: it is what the argument of a return statement evaluated to in a
state of the call. In particular nothing converts it to the declared return type, as arguments are converted to the
types of parameters. So a call yields a value of the declared type as far as the returned expressions do.
-/

namespace Stepwise

set_option autoImplicit false

mutual

/-- The arguments of the return statements in a statement. -/
def Stmt.returns : Stmt → List (Option Expr)
  | .block _ body => Stmt.returnsAll body
  | .ifThen _ _ body | .while_ _ _ body | .doWhile _ _ body | .for_ _ _ _ _ body => body.returns
  | .ifElse _ _ consequent alternate => consequent.returns ++ alternate.returns
  | .return_ _ argument => [argument]
  | .declare _ | .evaluate .. | .break_ _ | .continue_ _ => []

def Stmt.returnsAll : List Stmt → List (Option Expr)
  | [] => []
  | statement :: others => statement.returns ++ Stmt.returnsAll others

end

/-- The values of a return with one of the arguments, the argument being evaluated in one of the states. -/
inductive Expr.Returned (context : Context) (calls : Calls) (states : State → Prop) (arguments : List (Option Expr)) :
    Value → Prop
  | nothing (member : none ∈ arguments) : Returned context calls states arguments .void
  | value {expression : Expr} {value : Value} {before after : State} (member : some expression ∈ arguments)
      (passed : states before) (ended : (expression.eval context calls).run before = .ok value after) :
      Returned context calls states arguments value

/-- If the completion is a return, its value is one of those. -/
def Completion.Returns (returned : Value → Prop) (completion : Completion) : Prop :=
  ∀ value, completion = .returned value → returned value

/-- A computation begun in a state yields, if it completes, what is required. For this it may be known that the states
it passes through are among those given. -/
def Machine.Yields {α : Type} (states : State → Prop) (start : State) (computation : Machine α)
    (required : α → Prop) : Prop :=
  (∀ state, computation.passes start state → states state) →
    ∀ result final, computation.run start = .ok result final → required result

theorem Value.void_fits (typeName : Option String) : Value.void.Fits typeName := by
  unfold Fits coerce
  cases typeName.bind Primitive.ofName? with
  | none => rfl
  | some primitive => cases primitive <;> rfl

section Completions

variable {context : Context} {calls : Calls} {states : State → Prop} {returned wider : Value → Prop}
  {completion : Completion} {arguments more : List (Option Expr)} {value : Value}

theorem Expr.Returned.mono (returned : Expr.Returned context calls states arguments value)
    (includes : ∀ argument ∈ arguments, argument ∈ more) : Expr.Returned context calls states more value := by
  cases returned with
  | nothing member => exact .nothing (includes _ member)
  | value member passed ended => exact .value (includes _ member) passed ended

namespace Completion.Returns

theorem normal : Completion.Returns returned .normal := fun _ same => by cases same

theorem jump (jump : Jump) : Completion.Returns returned (.jump jump) := fun _ same => by cases same

theorem mono (returns : completion.Returns returned) (widens : ∀ value, returned value → wider value) :
    completion.Returns wider :=
  fun value same => widens value (returns value same)

theorem widened (returns : completion.Returns (Expr.Returned context calls states arguments))
    (includes : ∀ argument ∈ arguments, argument ∈ more) :
    completion.Returns (Expr.Returned context calls states more) :=
  returns.mono fun _ own => own.mono includes

theorem afterBody {final : Completion} (returns : completion.Returns returned)
    (ends : Machine.afterBody completion = some final) : final.Returns returned := by
  match completion with
  | .jump .break_ =>
      cases ends
      exact normal
  | .returned value =>
      cases ends
      exact returns
  | .normal | .jump .continue_ => cases ends

end Completion.Returns

end Completions

namespace Machine.Yields

variable {α β : Type} {states : State → Prop} {start : State} {returned : Value → Prop}

theorem seq {first : Machine α} {next : α → Machine β} {middle : α → Prop} {required : β → Prop}
    (yields : Yields states start first middle)
    (others : ∀ result state, middle result → Yields states state (next result) required) :
    Yields states start (first >>= next) required := by
  intro watched result final ended
  obtain ⟨value, state, ended, followed⟩ := run_bind_eq_ok.mp ended
  have holds := yields (fun other passed => watched other (.inl passed)) value state ended
  refine others value state holds (fun other passed => ?_) result final followed
  exact watched other (.inr ⟨value, state, ended, passed⟩)

/-- What comes first does not matter for what is yielded in the end. -/
theorem after {first : Machine α} {next : α → Machine β} {required : β → Prop}
    (others : ∀ result state, Yields states state (next result) required) :
    Yields states start (first >>= next) required := by
  have first : Yields states start first fun _ => True := fun _ _ _ _ => trivial
  exact first.seq fun result state _ => others result state

theorem done {required : α → Prop} {result : α} (holds : required result) :
    Yields states start (pure result : Machine α) required := by
  intro _ other final ended
  cases ended
  exact holds

theorem fails {required : α → Prop} (failure : Failure) :
    Yields states start (raise failure : Machine α) required := by
  intro _ result final ended
  cases ended

theorem imp {computation : Machine α} {required weaker : α → Prop} (yields : Yields states start computation required)
    (weakens : ∀ result, required result → weaker result) : Yields states start computation weaker :=
  fun watched result final ended => weakens result (yields watched result final ended)

theorem inScope {body : Machine α} {required : α → Prop} (yields : ∀ state, Yields states state body required) :
    Yields states start (inScope body) required := by
  refine after fun outer _ => after fun handle _ => after fun _ state => ?_
  exact (yields state).seq fun result _ holds => after fun _ _ => done holds

def Ends (returned : Value → Prop) (outcome : Option Completion) : Prop :=
  ∀ completion, outcome = some completion → completion.Returns returned

theorem ends_none : Ends returned none := fun _ same => by cases same

theorem ends_some {completion : Completion} (returns : completion.Returns returned) :
    Ends returned (some completion) := by
  intro other same
  cases same
  exact returns

theorem loop {options : Options} {line : Nat} {round : Machine (Option Completion)}
    (rounds : ∀ state, Yields states state round (Ends returned)) :
    Yields states start (loop options line round) (Completion.Returns returned) := by
  unfold Machine.loop
  generalize options.maxSteps + 1 = bound
  induction bound generalizing start with
  | zero => exact fails _
  | succ bound hypothesis =>
      refine (rounds start).seq fun outcome state ends => ?_
      cases outcome with
      | some completion => exact done (ends completion rfl)
      | none => exact hypothesis

end Machine.Yields

section Statements

open Machine

variable {context : Context} {calls : Calls} {states : State → Prop}

/-- The statement returns only what the arguments of its return statements evaluate to. -/
def Stmt.ReturnsOwn (context : Context) (calls : Calls) (states : State → Prop) (statement : Stmt) : Prop :=
  ∀ start, Yields states start (statement.exec context calls)
    (Completion.Returns (Expr.Returned context calls states statement.returns))

theorem Machine.yields_returning (line : Nat) (argument : Option Expr) (start : State) :
    Yields states start (returning context calls line argument)
      (Completion.Returns (Expr.Returned context calls states [argument])) := by
  have finished : ∀ value state, Expr.Returned context calls states [argument] value →
      Yields states state (record context.options line none (some .return_) >>= fun _ => pure (.returned value))
        (Completion.Returns (Expr.Returned context calls states [argument])) := by
    intro value state given
    refine .after fun _ _ => .done ?_
    intro other same
    cases same
    exact given
  cases argument with
  | none =>
      have empty : Yields states start (pure .void : Machine Value) (Expr.Returned context calls states [none]) :=
        .done (.nothing List.mem_cons_self)
      exact empty.seq finished
  | some expression =>
      have evaluated : Yields states start (expression.eval context calls)
          (Expr.Returned context calls states [some expression]) :=
        fun watched value final ended =>
          .value List.mem_cons_self (watched start (Machine.passes_start _ start)) ended
      exact evaluated.seq finished

theorem Stmt.returnsOwn_all {statements : List Stmt}
    (each : ∀ statement ∈ statements, statement.ReturnsOwn context calls states) (start : State) :
    Yields states start (Stmt.execAll context calls statements)
      (Completion.Returns (Expr.Returned context calls states (Stmt.returnsAll statements))) := by
  induction statements generalizing start with
  | nil =>
      rw [Stmt.execAll.eq_def]
      exact .done .normal
  | cons statement others hypothesis =>
      rw [Stmt.execAll.eq_def, Stmt.returnsAll]
      refine (each statement List.mem_cons_self start).seq fun completion state returns => ?_
      cases completion with
      | normal =>
          have rest := hypothesis (fun other member => each other (List.mem_cons_of_mem _ member)) state
          exact rest.imp fun final given => given.widened fun _ => List.mem_append_right _
      | jump jump => exact .done (.jump jump)
      | returned value => exact .done (returns.widened fun _ => List.mem_append_left _)

theorem Stmt.returnsOwn_while {test : Expr} {body : Stmt} (line : Nat) (own : body.ReturnsOwn context calls states) :
    (Stmt.while_ line test body).ReturnsOwn context calls states := by
  intro start
  rw [Stmt.exec.eq_def]
  refine .after fun _ _ => .loop fun _ => .after fun _ _ => .after fun holds state => ?_
  cases holds with
  | true => exact (own state).seq fun _ _ returns => .done fun _ ends => returns.afterBody ends
  | false => exact .done (Yields.ends_some .normal)

theorem Stmt.returnsOwn_doWhile {test : Expr} {body : Stmt} (line : Nat)
    (own : body.ReturnsOwn context calls states) : (Stmt.doWhile line test body).ReturnsOwn context calls states := by
  intro start
  rw [Stmt.exec.eq_def]
  refine .after fun _ _ => .loop fun _ => .after fun _ state => (own state).seq fun completion _ returns => ?_
  split
  · next final ends => exact .done (Yields.ends_some (returns.afterBody ends))
  · refine .after fun holds _ => ?_
    cases holds with
    | true => exact .done Yields.ends_none
    | false => exact .done (Yields.ends_some .normal)

theorem Stmt.returnsOwn_for {body : Stmt} (line : Nat) (init : Option ForInit) (test update : Option Expr)
    (own : body.ReturnsOwn context calls states) :
    (Stmt.for_ line init test update body).ReturnsOwn context calls states := by
  intro start
  rw [Stmt.exec.eq_def]
  refine .after fun _ _ => .inScope fun _ => ?_
  extract_lets rounds
  have loops : ∀ entry state, Yields states state (rounds entry)
      (Completion.Returns (Expr.Returned context calls states body.returns)) := by
    refine fun _ _ => .loop fun _ => .after fun _ _ => .after fun holds state => ?_
    cases holds with
    | true =>
        refine (own state).seq fun completion _ returns => ?_
        split
        · next final ends => exact .done (Yields.ends_some (returns.afterBody ends))
        · exact .after fun _ _ => .done Yields.ends_none
    | false => exact .done (Yields.ends_some .normal)
  cases init with
  | none => exact loops () _
  | some clause => exact .after loops

/-- What a statement returns is what the argument of one of its return statements evaluated to. -/
theorem Stmt.returnsOwn (statement : Stmt) : statement.ReturnsOwn context calls states := by
  induction statement using Stmt.induction with
  | declare declaration =>
      intro start
      rw [Stmt.exec.eq_def]
      exact .after fun _ _ => .done .normal
  | evaluate line expression =>
      intro start
      rw [Stmt.exec.eq_def]
      exact .after fun _ _ => .after fun _ _ => .done .normal
  | block line body hypothesis =>
      intro start
      rw [Stmt.exec.eq_def, Stmt.returns]
      exact .after fun _ _ => .inScope (returnsOwn_all hypothesis)
  | ifThen line test consequent hypothesis =>
      intro start
      rw [Stmt.exec.eq_def, Stmt.returns]
      refine .after fun _ _ => .after fun holds state => ?_
      cases holds with
      | true => exact hypothesis state
      | false => exact .done .normal
  | ifElse line test consequent alternate first second =>
      intro start
      rw [Stmt.exec.eq_def, Stmt.returns]
      refine .after fun _ _ => .after fun holds state => ?_
      cases holds with
      | true => exact (first state).imp fun _ given => given.widened fun _ => List.mem_append_left _
      | false =>
          exact (second state).imp fun _ given => given.widened fun _ => List.mem_append_right _
  | while_ line test body hypothesis => exact returnsOwn_while line hypothesis
  | doWhile line test body hypothesis => exact returnsOwn_doWhile line hypothesis
  | for_ line init test update body hypothesis => exact returnsOwn_for line init test update hypothesis
  | return_ line argument =>
      intro start
      rw [Stmt.exec.eq_def, Stmt.returns]
      exact .after fun _ state => yields_returning line argument state
  | break_ line | continue_ line =>
      intro start
      rw [Stmt.exec.eq_def]
      exact .after fun _ _ => .after fun _ _ => .done (.jump _)

/-- A call yields nothing, or what its body returns. -/
theorem Machine.yields_invoke (room : Nat) (method : Method) (className : String) (arguments : List Value) (line : Nat)
    (start : State) :
    Yields states start ((Calls.within context (room + 1)).invoke method className arguments line) fun value =>
      value = .void ∨ Expr.Returned context (Calls.within context room) states (Stmt.returnsAll method.body) value := by
  rw [Calls.within]
  refine .after fun _ _ => .after fun _ _ => .after fun _ _ => .after fun _ _ => .after fun _ _ => .after fun _ state => ?_
  refine (Stmt.returnsOwn_all (fun statement _ => statement.returnsOwn) state).seq fun completion _ returns => ?_
  have result : ∀ state, Yields states state (methodResult completion) fun value =>
      value = .void ∨ Expr.Returned context (Calls.within context room) states (Stmt.returnsAll method.body) value := by
    intro state
    cases completion with
    | normal => exact .done (.inl rfl)
    | jump jump => exact .fails _
    | returned value => exact .done (.inr (returns value rfl))
  exact (result _).seq fun value _ given => .after fun _ _ => .after fun _ _ => .done given

end Statements

/-- The expressions that a method returns suit its declared type in the states. -/
def Method.ReturnsSuit (context : Context) (states : State → Prop) (method : Method) : Prop :=
  ∀ expression, some expression ∈ Stmt.returnsAll method.body → expression.Suits context states method.returnType

/-- A call that completes yields nothing, or the very value that the argument of one of the method's return statements
evaluated to in a state that the call passed through: nothing converts it on its way. So the value fits the declared
return type if the returned expressions suit it in these states. -/
theorem call_yields_what_is_returned (context : Context) (state : State) (room : Nat) (method : Method)
    (className : String) (arguments : List Value) (line : Nat) {value : Value} {final : State}
    (ended : ((Calls.within context room).invoke method className arguments line).run state = .ok value final) :
    (∃ less, room = less + 1 ∧
      (value = .void ∨
        Expr.Returned context (Calls.within context less)
          (((Calls.within context room).invoke method className arguments line).passes state)
          (Stmt.returnsAll method.body) value)) ∧
      (method.ReturnsSuit context (((Calls.within context room).invoke method className arguments line).passes state) →
        value.coerce (some method.returnType) = .ok value ∧ value.InKind method.returnType) := by
  cases room with
  | zero =>
      -- Without room for another frame no call completes.
      rw [Calls.within] at ended
      obtain ⟨checked, middle, -, refused⟩ := Machine.run_bind_eq_ok.mp ended
      cases refused
  | succ less =>
      have given := Machine.yields_invoke less method className arguments line state (fun _ passed => passed) value final
        ended
      refine ⟨⟨less, rfl, given⟩, fun suit => ?_⟩
      have fits : value.Fits (some method.returnType) := by
        rcases given with rfl | returned
        · exact Value.void_fits _
        · cases returned with
          | nothing member => exact Value.void_fits _
          | value member passed evaluated => exact suit _ member _ _ _ _ passed evaluated
      exact ⟨fits, fits.inKind⟩

/-- A method of doubles that returns one or the other out of a loop. -/
def Method.share : Method where
  line := 2
  returnType := "double"
  name := "share"
  params := [{ line := 2, typeName := "boolean", name := "whole" }]
  body :=
    [.while_ 3 (.bool 3 true)
      (.block 3
        [.ifThen 4 (.name 4 "whole") (.return_ 4 (some (.double 4 1.0))), .return_ 5 (some (.double 5 0.5))])]

/-- A method of doubles that returns an integer. -/
def Method.unit : Method where
  line := 2
  returnType := "double"
  name := "unit"
  params := []
  body := [.return_ 3 (some (.int 3 1))]

/-- A program with a method, and a main method that does nothing. -/
def Context.idle (method : Method) : Context where
  options := { maxSteps := 20, mode := .all }
  program :=
    { classes :=
        [{ line := 1, name := "Main",
           body := [.method method, .method { line := 7, returnType := "void", name := "main", params := [], body := [] }] }] }

theorem share_yields_what_is_returned :
    ∃ final, ((Calls.within (.idle .share) 1).invoke .share "Main" [.bool false] 8).run State.initial =
        .ok (.double 0.5) final ∧
      Method.share.ReturnsSuit (.idle .share)
        (((Calls.within (.idle .share) 1).invoke .share "Main" [.bool false] 8).passes State.initial) ∧
      (Value.double 0.5).coerce (some "double") = .ok (.double 0.5) := by
  have yields : (((Calls.within (.idle .share) 1).invoke .share "Main" [.bool false] 8).run State.initial).value? =
      some (.double 0.5) := by decide +kernel
  have suit : ∀ states, Method.share.ReturnsSuit (.idle .share) states := by
    intro states expression member
    have either : expression = .double 4 1.0 ∨ expression = .double 5 0.5 := by
      simpa [Method.share, Stmt.returnsAll, Stmt.returns] using member
    rcases either with rfl | rfl
    · exact Expr.suits_of_literal rfl rfl
    · exact Expr.suits_of_literal rfl rfl
  obtain ⟨final, ended⟩ := Ending.exists_of_value? yields
  exact ⟨final, ended, suit _, ((call_yields_what_is_returned _ _ _ _ _ _ _ ended).2 (suit _)).1⟩

/-- In a state that a run reaches, a call of a method of doubles yields an integer. -/
theorem integer_from_double_method :
    ∃ state final, (Context.idle .unit).Reaches state ∧ (Context.idle .unit).Declares .unit "Main" ∧
      ((Calls.within (.idle .unit) 1).invoke .unit "Main" [] 8).run state = .ok (.int 1) final ∧
      (Value.int 1).coerce (some Method.unit.returnType) ≠ .ok (.int 1) := by
  have reached := (Context.idle .unit).execute.passes_ending State.initial
  have yields : (((Calls.within (.idle .unit) 1).invoke .unit "Main" [] 8).run
      ((Context.idle .unit).execute.run State.initial).state).value? = some (.int 1) := by decide +kernel
  obtain ⟨final, ended⟩ := Ending.exists_of_value? yields
  have declared : (Context.idle .unit).Declares .unit "Main" := ⟨_, "unit", rfl, rfl⟩
  refine ⟨_, final, reached, declared, ended, fun fits => ?_⟩
  exact ((Value.Fits.inKind fits).1 rfl).1 rfl

end Stepwise
