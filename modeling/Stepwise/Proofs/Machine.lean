import Stepwise.Proofs.Scopes
import Stepwise.Run

/-!
# Computations, how they end and what they pass

Every computation of the machine is put together from five: to yield a result, to fail, to look at the state, to
change it, and to set a mark. For each of them, and for one computation after another, this module says how it ends,
through which states it passes and which marks it sets. A run reaches the states that its computation passes through.

Many computations only look at the state; of them nothing but the ending is left to say.
-/

namespace Stepwise

set_option autoImplicit false

def Ending.value? {α : Type} : Ending α → Option α
  | .ok value _ => some value
  | .error _ _ => none

theorem Ending.exists_of_value? {α : Type} {ending : Ending α} {value : α} (yields : ending.value? = some value) :
    ∃ final, ending = .ok value final := by
  cases ending with
  | ok other final =>
      cases yields
      exact ⟨final, rfl⟩
  | error failure final => cases yields

def Ending.failure? {α : Type} : Ending α → Option Failure
  | .ok _ _ => none
  | .error failure _ => some failure

theorem Ending.exists_of_failure? {α : Type} {ending : Ending α} {failure : Failure}
    (fails : ending.failure? = some failure) : ∃ final, ending = .error failure final := by
  cases ending with
  | ok value final => cases fails
  | error other final =>
      cases fails
      exact ⟨final, rfl⟩

def State.entering (state : State) : State :=
  { state with scopes := state.scopes.opened (some state.current), current := state.scopes.size }

namespace Machine

variable {α β : Type}

@[simp] theorem run_pure (result : α) (start : State) : (pure result : Machine α).run start = .ok result start := rfl

@[simp] theorem run_get (start : State) : (get : Machine State).run start = .ok start start := rfl

@[simp] theorem run_modify (change : State → State) (start : State) :
    (modify change : Machine Unit).run start = .ok () (change start) := rfl

@[simp] theorem run_raise (failure : Failure) (start : State) :
    (raise failure : Machine α).run start = .error failure start := rfl

@[simp] theorem run_mark (sign : Mark) (start : State) : (mark sign).run start = .ok () start := rfl

theorem run_bind (first : Machine α) (next : α → Machine β) (start : State) :
    (first >>= next).run start =
      match first.run start with
      | .ok result middle => (next result).run middle
      | .error failure middle => .error failure middle := rfl

theorem run_bind_of_ok {first : Machine α} {start middle : State} {result : α} (next : α → Machine β)
    (ended : first.run start = .ok result middle) :
    (first >>= next).run start = (next result).run middle := by
  rw [run_bind, ended]

theorem run_bind_eq_ok {first : Machine α} {next : α → Machine β} {start final : State} {result : β} :
    (first >>= next).run start = .ok result final ↔
      ∃ value middle, first.run start = .ok value middle ∧ (next value).run middle = .ok result final := by
  rw [run_bind]
  constructor
  · cases outcome : first.run start with
    | ok value middle => exact fun ended => ⟨value, middle, rfl, ended⟩
    | error failure middle => exact fun ended => by cases ended
  · rintro ⟨value, middle, ended, followed⟩
    rw [ended]
    exact followed

theorem run_bind_eq_error {first : Machine α} {next : α → Machine β} {start final : State} {failure : Failure} :
    (first >>= next).run start = .error failure final ↔
      first.run start = .error failure final ∨
        ∃ value middle, first.run start = .ok value middle ∧ (next value).run middle = .error failure final := by
  rw [run_bind]
  constructor
  · cases outcome : first.run start with
    | ok value middle => exact fun ended => .inr ⟨value, middle, rfl, ended⟩
    | error cause middle =>
        intro ended
        cases ended
        exact .inl rfl
  · rintro (ended | ⟨value, middle, ended, followed⟩)
    · rw [ended]
    · rw [ended]
      exact followed

theorem run_ofOutcome_eq_ok {outcome : Except Failure α} {result : α} {start final : State} :
    (ofOutcome outcome).run start = .ok result final ↔ outcome = .ok result ∧ start = final := by
  cases outcome with
  | ok value =>
      constructor
      · intro ended
        cases ended
        exact ⟨rfl, rfl⟩
      · rintro ⟨same, rfl⟩
        cases same
        rfl
  | error failure =>
      constructor
      · intro ended
        cases ended
      · rintro ⟨impossible, -⟩
        cases impossible

theorem run_ofName_of_ok {name : String} {state : State} {owner : Nat}
    (resolved : state.scopes.resolve state.current name = .ok owner) :
    (Slot.ofName name).run state = .ok (.binding state.current name) state := by
  rw [Slot.ofName, run_bind_of_ok _ (run_get state), resolved]
  rfl

theorem run_ofName_of_error {name : String} {state : State} {failure : Failure}
    (unresolved : state.scopes.resolve state.current name = .error failure) :
    (Slot.ofName name).run state = .error failure state := by
  rw [Slot.ofName, run_bind_of_ok _ (run_get state), unresolved]
  rfl

theorem run_inScope (body : Machine α) (start : State) :
    (inScope body).run start =
      match body.run start.entering with
      | .ok result final =>
          .ok result { final with scopes := final.scopes.released start.scopes.size, current := start.current }
      | .error failure final => .error failure final := by
  simp only [inScope, openScope, enterScope, leaveScope, run_bind, run_get, run_modify, run_pure, State.entering]
  cases body.run _ <;> rfl

/-- How a computation ends does not depend on how its parts are grouped. -/
theorem run_bind_assoc {γ : Type} (first : Machine α) (second : α → Machine β) (third : β → Machine γ) (start : State) :
    ((first >>= second) >>= third).run start = (first >>= fun value => second value >>= third).run start := by
  simp only [run_bind]
  cases first.run start <;> rfl

@[simp] theorem passes_pure (result : α) (start state : State) :
    (pure result : Machine α).passes start state ↔ state = start := Iff.rfl

@[simp] theorem passes_get (start state : State) : (get : Machine State).passes start state ↔ state = start := Iff.rfl

@[simp] theorem passes_modify (change : State → State) (start state : State) :
    (modify change : Machine Unit).passes start state ↔ state = start ∨ state = change start := Iff.rfl

@[simp] theorem passes_raise (failure : Failure) (start state : State) :
    (raise failure : Machine α).passes start state ↔ state = start := Iff.rfl

@[simp] theorem passes_mark (sign : Mark) (start state : State) :
    (mark sign).passes start state ↔ state = start := Iff.rfl

theorem passes_bind (first : Machine α) (next : α → Machine β) (start state : State) :
    (first >>= next).passes start state ↔
      first.passes start state ∨
        ∃ result middle, first.run start = .ok result middle ∧ (next result).passes middle state := Iff.rfl

@[simp] theorem marks_pure (result : α) (start state : State) (sign : Mark) :
    (pure result : Machine α).marks start sign state ↔ False := Iff.rfl

@[simp] theorem marks_get (start state : State) (sign : Mark) :
    (get : Machine State).marks start sign state ↔ False := Iff.rfl

@[simp] theorem marks_modify (change : State → State) (start state : State) (sign : Mark) :
    (modify change : Machine Unit).marks start sign state ↔ False := Iff.rfl

@[simp] theorem marks_raise (failure : Failure) (start state : State) (sign : Mark) :
    (raise failure : Machine α).marks start sign state ↔ False := Iff.rfl

@[simp] theorem marks_mark (sign other : Mark) (start state : State) :
    (mark sign).marks start other state ↔ other = sign ∧ state = start := Iff.rfl

theorem marks_bind (first : Machine α) (next : α → Machine β) (start state : State) (sign : Mark) :
    (first >>= next).marks start sign state ↔
      first.marks start sign state ∨
        ∃ result middle, first.run start = .ok result middle ∧ (next result).marks middle sign state := Iff.rfl

theorem passes_of_ok {computation : Machine α} {start final : State} {result : α}
    (ended : computation.run start = .ok result final) : computation.passes start final := by
  have ending := computation.passes_ending start
  rw [ended] at ending
  exact ending

/-- A computation that looks at the state and leaves it alone. -/
structure ReadsOnly (computation : Machine α) : Prop where
  passing : ∀ start state, computation.passes start state → state = start
  unmarked : ∀ start sign state, ¬computation.marks start sign state

namespace ReadsOnly

theorem pure (result : α) : ReadsOnly (pure result : Machine α) :=
  ⟨fun _ _ passed => passed, fun _ _ _ marked => marked⟩

theorem get : ReadsOnly (get : Machine State) :=
  ⟨fun _ _ passed => passed, fun _ _ _ marked => marked⟩

theorem raise (failure : Failure) : ReadsOnly (raise failure : Machine α) :=
  ⟨fun _ _ passed => passed, fun _ _ _ marked => marked⟩

theorem ofOutcome (outcome : Except Failure α) : ReadsOnly (ofOutcome outcome) := by
  cases outcome with
  | ok value => exact .pure value
  | error failure => exact .raise failure

theorem state_of_ok {computation : Machine α} (reading : ReadsOnly computation) {start final : State} {result : α}
    (ended : computation.run start = .ok result final) : final = start :=
  reading.passing start final (passes_of_ok ended)

theorem bind {first : Machine α} {next : α → Machine β} (reading : ReadsOnly first)
    (others : ∀ result, ReadsOnly (next result)) : ReadsOnly (first >>= next) where
  passing start state := by
    rintro (passed | ⟨result, middle, ended, passed⟩)
    · exact reading.passing start state passed
    · have same : middle = start := reading.state_of_ok ended
      rw [same] at passed
      exact (others result).passing start state passed
  unmarked start sign state := by
    rintro (marked | ⟨result, middle, -, marked⟩)
    · exact reading.unmarked start sign state marked
    · exact (others result).unmarked middle sign state marked

theorem lookup (name : String) : ReadsOnly (lookup name) := .bind .get fun _ => .ofOutcome _

theorem dereference (value : Value) (action : String) (line : Nat) : ReadsOnly (dereference value action line) := by
  cases value with
  | ref handle =>
      refine .bind .get fun state => ?_
      split
      · exact .pure _
      · exact .raise _
  | _ => exact .raise _

theorem ofName (name : String) : ReadsOnly (Slot.ofName name) :=
  .bind .get fun _ => .bind (.ofOutcome _) fun _ => .pure _

theorem ofIndex (line : Nat) (container index : Value) : ReadsOnly (Slot.ofIndex line container index) := by
  refine .bind (.dereference container _ line) fun found => ?_
  obtain ⟨handle, cell⟩ := found
  cases cell with
  | object className fields => exact .raise _
  | array elementType values =>
      dsimp only
      split
      · exact .raise _
      · split
        · exact .pure _
        · exact .bind (.ofOutcome _) fun _ => .raise _

theorem ofField (line : Nat) (container : Value) (name : String) : ReadsOnly (Slot.ofField line container name) := by
  refine .bind (.dereference container _ line) fun found => ?_
  obtain ⟨handle, cell⟩ := found
  cases cell with
  | object className fields => exact .pure _
  | array elementType values =>
      dsimp only
      split
      · exact .pure _
      · exact .raise _

theorem read (slot : Slot) : ReadsOnly slot.read := by
  cases slot with
  | binding scope name => exact .bind .get fun _ => .ofOutcome _
  | element handle position =>
      refine .bind .get fun state => ?_
      split
      · split
        · exact .pure _
        · exact .raise _
      · exact .raise _
  | field handle name =>
      refine .bind .get fun state => ?_
      split
      · split
        · exact .pure _
        · exact .raise _
      · exact .raise _
  | length size => exact .pure _

theorem truth (line : Nat) (value : Value) : ReadsOnly (truth line value) := by
  cases value with
  | bool value => exact .pure _
  | _ => exact .raise _

theorem methodNamed (context : Context) (line : Nat) (name : String) : ReadsOnly (methodNamed context line name) := by
  have reading : ReadsOnly currentClass := by
    refine .bind .get fun state => ?_
    split <;> exact .pure _
  refine .bind reading fun className => ?_
  split
  · exact .pure _
  · exact .raise _

theorem methodOf (context : Context) (line : Nat) (receiver : Value) (name : String) :
    ReadsOnly (methodOf context line receiver name) := by
  unfold Machine.methodOf
  extract_lets following
  have reading : ∀ result, ReadsOnly (following result) := by
    intro result
    refine .bind (.dereference receiver _ line) fun found => ?_
    obtain ⟨handle, cell⟩ := found
    cases cell with
    | array elementType values => exact .raise _
    | object className fields =>
        dsimp only
        split
        · exact .pure _
        · exact .raise _
  split
  · exact .bind (.raise _) reading
  · exact reading ()

theorem literalChar (raw : String) : ReadsOnly (literalChar raw) := by
  unfold Machine.literalChar
  split
  · exact .pure _
  · exact .raise _

end ReadsOnly

end Machine

namespace Context

/-- The states of a run, from the one before it to the one in which it ends. -/
def Reaches (context : Context) (state : State) : Prop :=
  context.execute.passes State.initial state

/-- The marks of a run, each with the state in which it is set. -/
def Marks (context : Context) (sign : Mark) (state : State) : Prop :=
  context.execute.marks State.initial sign state

end Context

theorem State.visible_of_hold {admitted : Value → Prop} {state : State} (hold : state.scopes.Hold admitted)
    (mode : VariablesMode) : ∀ entry ∈ state.visible mode, ∀ value, entry.2 = some value → admitted value := by
  intro entry member value shown
  cases mode with
  | local_ =>
      rw [State.visible, localVariables] at member
      split at member
      · cases member
      · next scope found =>
          obtain ⟨binding, selected, same⟩ := List.mem_map.mp member
          rw [← same] at shown
          cases shown
          exact hold _ scope found binding (List.mem_filter.mp selected).1
  | all =>
      rw [State.visible, allVariables] at member
      obtain ⟨name, -, given⟩ := List.mem_filterMap.mp member
      split at given
      · next found looked =>
          split at given
          · cases given
          · cases given
            cases shown
            exact hold.lookup looked
      · cases given
        cases shown

/-- The value of a literal whose text has been read already. -/
def Expr.literal? : Expr → Option Value
  | .int _ value => some (.int value)
  | .double _ value => some (.double value)
  | .bool _ value => some (.bool value)
  | .string _ raw => some (.string raw)
  | .null _ => some .null
  | _ => none

theorem Expr.marks_eval (context : Context) (calls : Calls) (expression : Expr) (start : State) :
    (expression.eval context calls).marks start (.evaluating expression) start := by
  rw [Expr.eval.eq_def]
  cases expression <;> exact .inl ⟨rfl, rfl⟩

theorem Expr.eval_literal {context : Context} {calls : Calls} {expression : Expr} {value : Value}
    (found : expression.literal? = some value) :
    expression.eval context calls = Machine.mark (.evaluating expression) >>= fun _ => pure value := by
  rw [Expr.eval.eq_def]
  cases expression
  case int | double | bool | string | null =>
    cases found
    rfl
  all_goals cases found

end Stepwise
