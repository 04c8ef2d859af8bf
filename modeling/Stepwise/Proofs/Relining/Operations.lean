import Stepwise.Proofs.Relining
import Stepwise.Proofs.Machine
import Stepwise.Proofs.Failures

/-!
# The operations of the machine carry lines along

An operation that is given another line, in a state on other lines, does the same and leaves a state on those other
lines; if it fails it is for the same cause, on the other line. Pure operations either know no line at all, and then
their failures have none, or they report the one that they are given.
-/

namespace Stepwise

set_option autoImplicit false

variable {move : Nat → Nat} {α β : Type}

theorem Failure.Unlined.relined {failure : Failure} (unlined : failure.Unlined) : failure.relined move = failure := by
  cases failure with
  | issue cause line =>
      obtain ⟨rfl, -⟩ := unlined
      rfl
  | fault cause => rfl

theorem Unlined.relined {outcome : Except Failure α} (unlined : Unlined outcome) :
    outcome.mapError (Failure.relined move) = outcome := by
  cases outcome with
  | ok result => rfl
  | error failure => exact congrArg Except.error (unlined failure rfl).relined

namespace Value

theorem numericArithmetic_relined (line : Nat) (operation : Arithmetic) (left right : Numeric) :
    numericArithmetic (move line) operation left right =
      (numericArithmetic line operation left right).mapError (Failure.relined move) := by
  match left, right with
  | .integral left, .integral right =>
      unfold numericArithmetic
      cases operation with
      | divide | remainder =>
          unfold integralArithmetic
          dsimp only
          split
          · rfl
          · rfl
      | _ => rfl
  | .integral left, .double right => exact (unlined_doubles _ _ operation).relined.symm
  | .double left, _ => exact (unlined_doubles _ _ operation).relined.symm

theorem binary_relined (heap : Heap) (line : Nat) (spelling : String) (left right : Value) :
    Value.binary heap (move line) spelling left right =
      (Value.binary heap line spelling left right).mapError (Failure.relined move) := by
  unfold Value.binary
  cases BinaryOperator.ofSpelling? spelling with
  | none => rfl
  | some operator =>
      dsimp only
      unfold Value.applyBinary
      split
      · rfl
      · rfl
      · exact numericArithmetic_relined line _ _ _
      · rfl
      · exact (unlined_joined heap left right).relined.symm
      · rfl

theorem unary_relined (line : Nat) (spelling : String) (value : Value) :
    value.unary (move line) spelling = (value.unary line spelling).mapError (Failure.relined move) := by
  unfold Value.unary
  split
  · split <;> rfl
  · split <;> rfl
  · rfl

theorem stepped_relined (line : Nat) (operator : String) (value : Value) :
    value.stepped (move line) operator = (value.stepped line operator).mapError (Failure.relined move) := by
  unfold Value.stepped
  dsimp only
  split
  · rfl
  · split <;> rfl
  · rfl
  · rfl

end Value

namespace Machine

abbrev carrier (move : Nat → Nat) : Carrier Machine where
  σ := State
  ε := Failure
  run computation := computation.run
  run_pure _ _ := rfl
  run_bind first next start := by
    rw [run_bind]
    unfold chained
    cases first.run start <;> rfl
  states := State.relined move
  failures := Failure.relined move

/-- Begun in a state on other lines, the second computation does what the first one does. -/
abbrev Follows (move : Nat → Nat) (view : α → α) (first second : Machine α) : Prop :=
  (carrier move).Follows view first second

end Machine

namespace Carrier.Follows

open Machine

variable {view : α → α}

theorem look {next nextSecond : State → Machine α}
    (follows : ∀ state, Machine.Follows move view (next state) (nextSecond (state.relined move))) :
    Machine.Follows move view ((get : Machine State) >>= next) ((get : Machine State) >>= nextSecond) :=
  fun state => follows state state

theorem raise {failure : Failure} : Machine.Follows move view (raise failure) (raise (failure.relined move)) :=
  fun _ => rfl

theorem modify {change changeSecond : State → State}
    (same : ∀ state, (change state).relined move = changeSecond (state.relined move)) :
    Machine.Follows move id (modify change : Machine Unit) (modify changeSecond) :=
  fun state => congrArg (EStateM.Result.ok ()) (same state).symm

theorem mark {sign other : Mark} : Machine.Follows move id (mark sign) (mark other) :=
  fun _ => rfl

theorem outcome {outcome other : Except Failure α} (same : other = outcome.mapError (Failure.relined move)) :
    Machine.Follows move id (ofOutcome outcome) (ofOutcome other) := by
  rw [same]
  cases outcome with
  | ok result => exact .pure rfl
  | error failure => exact .raise

theorem unlined {outcome : Except Failure α} (unlined : Unlined outcome) :
    Machine.Follows move id (ofOutcome outcome) (ofOutcome outcome) :=
  .outcome unlined.relined.symm

end Carrier.Follows

namespace Machine

theorem follows_failOn {view : α → α} (line : Nat) (issue : Issue) :
    Follows move view (failOn line issue) (failOn (move line) issue) :=
  .raise

theorem follows_fail {view : α → α} (issue : Issue) : Follows move view (fail issue) (fail issue) :=
  .raise

theorem follows_fault {view : α → α} (cause : Fault) : Follows move view (raise (.fault cause)) (raise (.fault cause)) :=
  .raise

theorem follows_unless {condition : Prop} {decide decideSecond : Decidable condition} {view : α → α} {line : Nat}
    {issue : Issue} {next nextSecond : Unit → Machine α} (others : Follows move view (next ()) (nextSecond ())) :
    Follows move view (@ite _ condition decide (failOn line issue >>= next) (next ()))
      (@ite _ condition decideSecond (failOn (move line) issue >>= nextSecond) (nextSecond ())) := by
  refine .branch ?_ others
  exact fun _ => rfl

theorem follows_record (options : Options) (line : Nat) (console : Option Text) (event : Option Event) :
    Follows move id (record options line console event) (record options (move line) console event) := by
  refine .look fun state => ?_
  have size : (state.relined move).steps.size = state.steps.size := Array.size_map
  rw [size]
  refine follows_unless (.modify fun other => ?_)
  simp only [State.relined, Array.map_push]
  rw [← other.visible_relined]
  rfl

theorem follows_record_yield {result : α} (options : Options) (line : Nat) (console : Option Text)
    (event : Option Event) :
    Follows move id (record options line console event >>= fun _ => pure result)
      (record options (move line) console event >>= fun _ => pure result) :=
  (follows_record options line console event).bind fun _ => .pure rfl

theorem follows_tick (options : Options) (line : Nat) : Follows move id (tick options line) (tick options (move line)) := by
  refine .bind (.modify fun _ => rfl) fun _ => ?_
  refine .look fun state => ?_
  exact .branch (follows_failOn line _) (.pure rfl)

theorem follows_atLine (line : Nat) : Follows move id (atLine line) (atLine (move line)) :=
  .modify fun _ => rfl

theorem follows_lookup (name : String) : Follows move id (lookup name) (lookup name) :=
  .look fun state => .unlined (state.scopes.unlined_lookup state.current name)

theorem follows_noteDeclared (name : String) : Follows move id (noteDeclared name) (noteDeclared name) := by
  refine .modify fun state => ?_
  by_cases noted : state.declared.contains name
  · exact (congrArg (State.relined move) (if_pos noted)).trans (if_pos noted).symm
  · exact (congrArg (State.relined move) (if_neg noted)).trans (if_neg noted).symm

theorem follows_declareIn (scope : Nat) (name : String) (value : Value) (typeName : Option String) :
    Follows move id (declareIn scope name value typeName) (declareIn scope name value typeName) := by
  refine .look fun state => ?_
  refine .bind (.unlined (state.scopes.unlined_declare scope name value typeName)) fun changed => ?_
  exact .modify fun _ => rfl

theorem follows_openScope (parent : Nat) : Follows move id (openScope parent) (openScope parent) :=
  .look fun _ => .bind (.modify fun _ => rfl) fun _ => .pure rfl

theorem follows_enterScope (handle : Nat) : Follows move id (enterScope handle) (enterScope handle) :=
  .modify fun _ => rfl

theorem follows_leaveScope (handle outer : Nat) : Follows move id (leaveScope handle outer) (leaveScope handle outer) :=
  Carrier.Follows.mark.bind fun _ => .modify fun _ => rfl

theorem follows_inScope {body bodySecond : Machine α} (follows : Follows move id body bodySecond) :
    Follows move id (inScope body) (inScope bodySecond) := by
  refine .look fun state => ?_
  refine (follows_openScope state.current).bind fun handle => ?_
  refine (follows_enterScope handle).bind fun _ => ?_
  refine follows.bind fun result => ?_
  exact (follows_leaveScope handle state.current).bind fun _ => .pure rfl

theorem follows_pushFrame (frame : Frame) : Follows move id (pushFrame frame) (pushFrame (frame.relined move)) :=
  .modify fun _ => rfl

theorem follows_popFrame : Follows move id popFrame popFrame :=
  .modify fun state => by simp only [State.relined, List.map_tail]

theorem follows_allocate (options : Options) (line : Nat) (cell : Cell) :
    Follows move id (allocate options line cell) (allocate options (move line) cell) := by
  refine .look fun state => ?_
  refine .bind (.modify fun _ => rfl) fun _ => ?_
  exact follows_record_yield options line none _

theorem follows_dereference (value : Value) (action : String) (line : Nat) :
    Follows move id (dereference value action line) (dereference value action (move line)) := by
  unfold dereference
  split
  · refine .look fun state => ?_
    dsimp only [State.relined]
    split
    · exact .pure rfl
    · exact follows_fault _
  · exact follows_failOn line _
  · exact follows_failOn line _

theorem follows_ofName (name : String) : Follows move id (Slot.ofName name) (Slot.ofName name) := by
  refine .look fun state => ?_
  refine .bind (.unlined (state.scopes.unlined_resolve state.current name)) fun _ => ?_
  exact .pure rfl

theorem follows_ofIndex (line : Nat) (container index : Value) :
    Follows move id (Slot.ofIndex line container index) (Slot.ofIndex (move line) container index) := by
  refine (follows_dereference container _ line).bind fun found => ?_
  obtain ⟨handle, cell⟩ := found
  cases cell with
  | object className fields => exact follows_failOn line _
  | array elementType values =>
      cases index.integral? with
      | none => exact follows_failOn line _
      | some position =>
          refine .branch (.pure rfl) ?_
          refine .bind (.unlined (unlined_liftFault _)) fun text => ?_
          exact follows_failOn line _

theorem follows_ofField (line : Nat) (container : Value) (name : String) :
    Follows move id (Slot.ofField line container name) (Slot.ofField (move line) container name) := by
  refine (follows_dereference container _ line).bind fun found => ?_
  obtain ⟨handle, cell⟩ := found
  cases cell with
  | object className fields => exact .pure rfl
  | array elementType values => exact .branch (.pure rfl) (follows_failOn line _)

theorem follows_read (slot : Slot) : Follows move id slot.read slot.read := by
  cases slot with
  | binding scope name => exact .look fun state => .unlined (state.scopes.unlined_lookup scope name)
  | element handle position =>
      refine .look fun state => ?_
      dsimp only [State.relined]
      split
      · split
        · exact .pure rfl
        · exact follows_fault _
      · exact follows_fault _
  | field handle name =>
      refine .look fun state => ?_
      dsimp only [State.relined]
      split
      · split
        · exact .pure rfl
        · exact follows_fail _
      · exact follows_fault _
  | length size => exact .pure rfl

theorem follows_write (slot : Slot) (value : Value) : Follows move id (slot.write value) (slot.write value) := by
  cases slot with
  | binding scope name =>
      refine .look fun state => ?_
      refine .bind (.unlined (state.scopes.unlined_assign scope name value)) fun changed => ?_
      exact .bind (.modify fun _ => rfl) fun _ => .pure rfl
  | element handle position =>
      refine .look fun state => ?_
      dsimp only [State.relined]
      split
      · refine .bind (.unlined (value.unlined_coerce _)) fun stored => ?_
        exact .bind (.modify fun _ => rfl) fun _ => .pure rfl
      · exact follows_fault _
  | field handle name =>
      refine .look fun state => ?_
      dsimp only [State.relined]
      split
      · exact .bind (.modify fun _ => rfl) fun _ => .pure rfl
      · exact follows_fault _
  | length size => exact follows_fail _

theorem follows_truth (line : Nat) (value : Value) : Follows move id (truth line value) (truth (move line) value) := by
  unfold truth
  split
  · exact .pure rfl
  · exact follows_failOn line _

theorem follows_writeConsole (options : Options) (line : Nat) (method : ConsoleMethod) (arguments : List Value) :
    Follows move id (writeConsole options line method arguments) (writeConsole options (move line) method arguments) := by
  refine .look fun state => ?_
  refine .bind (.unlined (method.unlined_output state.heap arguments)) fun output => ?_
  exact follows_record_yield options line _ none

theorem follows_applyBinary (options : Options) (line : Nat) (operator : String) (left right : Value) :
    Follows move id (applyBinary options line operator left right)
      (applyBinary options (move line) operator left right) := by
  refine .look fun state => ?_
  refine .bind (.outcome (Value.binary_relined state.heap line operator left right)) fun result => ?_
  exact follows_record_yield options line none none

theorem follows_applyUnary (options : Options) (line : Nat) (operator : String) (value : Value) :
    Follows move id (applyUnary options line operator value) (applyUnary options (move line) operator value) := by
  refine .bind (.outcome (Value.unary_relined line operator value)) fun result => ?_
  exact follows_record_yield options line none none

theorem follows_store (options : Options) (line : Nat) (slot : Slot) (value : Value) :
    Follows move id (store options line slot value) (store options (move line) slot value) := by
  refine (follows_write slot value).bind fun stored => ?_
  exact follows_record_yield options line none none

theorem follows_storeCompound (options : Options) (line : Nat) (operator : String) (slot : Slot)
    (current operand : Value) :
    Follows move id (storeCompound options line operator slot current operand)
      (storeCompound options (move line) operator slot current operand) := by
  refine .look fun state => ?_
  refine .bind (.outcome (Value.binary_relined state.heap line _ current operand)) fun result => ?_
  refine .bind (.unlined (current.unlined_narrowedLike result)) fun narrowed => ?_
  exact follows_store options line slot narrowed

theorem follows_updateVariable (options : Options) (line : Nat) (form : UpdateForm) (operator name : String) :
    Follows move id (updateVariable options line form operator name)
      (updateVariable options (move line) form operator name) := by
  refine .look fun state => ?_
  refine (follows_read _).bind fun current => ?_
  refine .bind (.outcome (Value.stepped_relined line operator current)) fun next => ?_
  exact (follows_store options line _ next).bind fun stored => .pure rfl

theorem follows_makeArray (options : Options) (line : Nat) (elementType : String) (size : Value) :
    Follows move id (makeArray options line elementType size) (makeArray options (move line) elementType size) := by
  unfold makeArray
  cases size.integral? with
  | none => exact follows_failOn line _
  | some length =>
      refine .branch ?_ (follows_allocate options line _)
      refine .bind (.unlined (unlined_liftFault _)) fun text => ?_
      exact follows_failOn line _

theorem follows_literalChar (raw : String) : Follows move id (literalChar raw) (literalChar raw) := by
  unfold literalChar
  split
  · exact .pure rfl
  · exact follows_fault _

theorem follows_currentClass : Follows move id currentClass currentClass := by
  refine .look fun state => ?_
  dsimp only [State.relined]
  cases state.frames with
  | nil => exact .pure rfl
  | cons frame frames => exact .pure rfl

theorem follows_methodNamed (context : Context) (line : Nat) (name : String) :
    Follows move (Prod.map (Method.relined move) id) (methodNamed context line name)
      (methodNamed (context.relined move) (move line) name) := by
  refine follows_currentClass.bind fun className => ?_
  dsimp only [Context.relined, id]
  rw [context.program.method?_relined]
  cases (context.program.class? className).bind (·.method? name) with
  | none => exact follows_failOn line _
  | some method => exact .pure rfl

theorem follows_methodOf (context : Context) (line : Nat) (receiver : Value) (name : String) :
    Follows move (Prod.map (Method.relined move) id) (methodOf context line receiver name)
      (methodOf (context.relined move) (move line) receiver name) := by
  unfold methodOf
  refine follows_unless ?_
  refine (follows_dereference receiver _ line).bind fun found => ?_
  obtain ⟨handle, cell⟩ := found
  cases cell with
  | array elementType values => exact follows_failOn line _
  | object className fields =>
      dsimp only [Context.relined, id]
      rw [context.program.method?_relined]
      cases (context.program.class? className).bind (·.method? name) with
      | none => exact follows_failOn line _
      | some method => exact .pure rfl

end Machine

end Stepwise
