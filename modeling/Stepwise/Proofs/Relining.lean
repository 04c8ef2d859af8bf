import Stepwise.Proofs.Erasure
import Stepwise.Proofs.Tree
import Stepwise.Run

/-!
# Lines put through a function

Every line that a token, a state of a run or a report of a failure carries may be replaced by another one, as those of
trees may. Nothing but the lines changes then: what is asked of a tree besides its line has the same answer. Reading and
running commute with such a replacement, as the modules behind this one show, so that lines are carried along and never
looked at. Columns are not carried at all, so that the replacement drops them.

Readers and machines differ in their states and in their failures only. What it means that one computation follows
another through a replacement, and that this is kept when computations are put together, is said once for both.
-/

namespace Stepwise

set_option autoImplicit false

variable (move : Nat → Nat)

/-- The token on another line. Its column is dropped. -/
def Token.relined (token : Token) : Token :=
  { token with line := move token.line, column := 0 }

def SourceError.relined (error : SourceError) : SourceError :=
  { error with line := move error.line }

def Rejection.relined : Rejection → Rejection
  | .malformed error => .malformed (error.relined move)
  | other => other

def Frame.relined (frame : Frame) : Frame :=
  { frame with line := move frame.line }

def Step.relined (step : Step) : Step :=
  { step with line := move step.line, frames := step.frames.map (Frame.relined move) }

def State.relined (state : State) : State :=
  { state with
    frames := state.frames.map (Frame.relined move)
    steps := state.steps.map (Step.relined move)
    line := move state.line }

def Failure.relined : Failure → Failure
  | .issue cause line => .issue cause (line.map move)
  | .fault cause => .fault cause

def Context.relined (context : Context) : Context :=
  { context with program := context.program.relined move }

variable {move}

@[simp] theorem Token.kind_relined (token : Token) : (token.relined move).kind = token.kind := rfl

@[simp] theorem Token.value_relined (token : Token) : (token.relined move).value = token.value := rfl

@[simp] theorem Token.line_relined (token : Token) : (token.relined move).line = move token.line := rfl

@[simp] theorem Expr.line_relined (expression : Expr) : (expression.relined move).line = move expression.line := by
  cases expression <;> simp only [relined, line]

theorem Expr.relinedAll_eq_map (expressions : List Expr) :
    Expr.relinedAll move expressions = expressions.map (Expr.relined move) := by
  induction expressions with
  | nil => simp only [relinedAll, List.map_nil]
  | cons expression others ih => simp only [relinedAll, List.map_cons, ih]

@[simp] theorem Expr.isTarget_relined (expression : Expr) :
    (expression.relined move).isTarget = expression.isTarget := by
  cases expression <;> simp only [relined, isTarget]

theorem Expr.relined_node (level : Level) (left : Expr) (operator : String) (right : Expr) :
    (level.node left operator right).relined move = level.node (left.relined move) operator (right.relined move) := by
  cases level <;> simp only [Level.node, relined, line_relined]

theorem Stmt.relinedAll_eq_map (statements : List Stmt) :
    Stmt.relinedAll move statements = statements.map (Stmt.relined move) := by
  induction statements with
  | nil => simp only [relinedAll, List.map_nil]
  | cons statement others ih => simp only [relinedAll, List.map_cons, ih]

namespace ClassDecl

variable (decl : ClassDecl)

theorem methodDeclarations_relined :
    (decl.relined move).methodDeclarations = decl.methodDeclarations.map (Method.relined move) := by
  simp only [methodDeclarations, relined, List.filterMap_map, List.map_filterMap]
  congr 1
  funext member
  cases member <;> rfl

theorem fieldDeclarations_relined :
    (decl.relined move).fieldDeclarations = decl.fieldDeclarations.map (Declaration.relined move) := by
  simp only [fieldDeclarations, relined, List.filterMap_map, List.map_filterMap]
  congr 1
  funext member
  cases member <;> rfl

theorem method?_relined (name : String) :
    (decl.relined move).method? name = (decl.method? name).map (Method.relined move) := by
  rw [method?, methodDeclarations_relined, ← List.map_reverse, List.find?_map]
  rfl

theorem methodNames_relined : (decl.relined move).methodNames = decl.methodNames := by
  rw [methodNames, methodDeclarations_relined, List.foldl_map]
  rfl

theorem staticFields_relined :
    (decl.relined move).staticFields = decl.staticFields.map (Declaration.relined move) := by
  rw [staticFields, fieldDeclarations_relined, List.filter_map]
  rfl

theorem instanceFields_relined :
    (decl.relined move).instanceFields = decl.instanceFields.map (Declaration.relined move) := by
  rw [instanceFields, fieldDeclarations_relined, List.filter_map]
  rfl

end ClassDecl

theorem Program.class?_relined (program : Program) (name : String) :
    (program.relined move).class? name = (program.class? name).map (ClassDecl.relined move) := by
  rw [class?, relined, List.find?_map]
  rfl

theorem Program.method?_relined (program : Program) (className name : String) :
    ((program.relined move).class? className).bind (·.method? name) =
      ((program.class? className).bind (·.method? name)).map (Method.relined move) := by
  rw [class?_relined, Option.bind_map, Option.map_bind]
  congr 1
  funext decl
  exact decl.method?_relined name

theorem Program.entryPoint?_relined (program : Program) :
    (program.relined move).entryPoint? = program.entryPoint?.map (Method.relined move) :=
  program.method?_relined "Main" "main"

@[simp] theorem State.visible_relined (state : State) (mode : VariablesMode) :
    (state.relined move).visible mode = state.visible mode := by
  cases mode <;> rfl

/-- How a computation ends that goes on behind another one. -/
def chained {ε σ α β : Type} (ending : EStateM.Result ε σ α) (next : α → σ → EStateM.Result ε σ β) :
    EStateM.Result ε σ β :=
  match ending with
  | .ok result middle => next result middle
  | .error failure middle => .error failure middle

/-- A kind of computation that states are put through, and how states and failures are replaced. -/
structure Carrier (M : Type → Type) [Monad M] where
  {σ ε : Type}
  run : {α : Type} → M α → σ → EStateM.Result ε σ α
  run_pure : ∀ {α : Type} (result : α) (start : σ), run (pure result) start = .ok result start
  run_bind : ∀ {α β : Type} (first : M α) (next : α → M β) (start : σ),
    run (first >>= next) start = chained (run first start) fun result => run (next result)
  states : σ → σ
  failures : ε → ε

namespace Carrier

variable {M : Type → Type} [Monad M] {C : Carrier M} {α β : Type}

/-- Begun in a replaced state, the second computation does what the first one does. What it yields is then seen with the
replacement. -/
def Follows (C : Carrier M) (view : α → α) (first second : M α) : Prop :=
  ∀ start, C.run second (C.states start) =
    match C.run first start with
    | .ok result after => .ok (view result) (C.states after)
    | .error failure after => .error (C.failures failure) (C.states after)

namespace Follows

variable {view : α → α} {last : β → β} {first second : M α} {next nextSecond : α → M β}

theorem pure {result other : α} (same : view result = other) : C.Follows view (pure result) (pure other) := by
  intro start
  rw [C.run_pure, C.run_pure, ← same]

theorem bind (follows : C.Follows view first second)
    (others : ∀ result, C.Follows last (next result) (nextSecond (view result))) :
    C.Follows last (first >>= next) (second >>= nextSecond) := by
  intro start
  rw [C.run_bind, C.run_bind, follows start]
  unfold chained
  cases C.run first start with
  | ok result after => exact others result after
  | error failure after => rfl

/-- Both computations decide alike. The two decisions need not be made by the same procedure. -/
theorem branch {condition : Prop} {decide decideSecond : Decidable condition} {yes yesSecond no noSecond : M α}
    (follows : C.Follows view yes yesSecond) (otherwise : C.Follows view no noSecond) :
    C.Follows view (@ite _ condition decide yes no) (@ite _ condition decideSecond yesSecond noSecond) := by
  by_cases holds : condition
  · rw [if_pos holds, if_pos holds]
    exact follows
  · rw [if_neg holds, if_neg holds]
    exact otherwise

end Follows

end Carrier

end Stepwise
