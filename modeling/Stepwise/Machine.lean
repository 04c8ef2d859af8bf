import Stepwise.Step
import Stepwise.Scopes
import Stepwise.Tree

/-!
The machine that runs a program: its state and the operations that every part of the evaluation is made of. A
computation yields a result and a new state, or fails; a failure keeps the state in which it arose. The first scope is
the global one.
-/

namespace Stepwise

set_option autoImplicit false

/-- Which variables a step shows: those of the innermost scope, or every name declared so far. -/
inductive VariablesMode
  | local_ | all
  deriving DecidableEq, Repr

structure Options where
  maxSteps : Nat
  mode : VariablesMode
  deriving DecidableEq, Repr

structure Context where
  options : Options
  program : Program
  deriving Repr

structure State where
  scopes : Scopes
  current : Nat
  heap : Heap
  /-- The call stack, the innermost frame first. -/
  frames : List Frame
  /-- Every name declared so far, in the order of the first declarations. -/
  declared : List String
  steps : Array Step
  /-- How often the loops of the run began another round, all loops together. -/
  iterations : Nat
  /-- The line of the statement in progress; zero before the first. -/
  line : Nat
  deriving Repr

def globalScope : Nat := 0

def State.initial : State :=
  { scopes := Scopes.empty.opened none, current := globalScope, heap := .empty, frames := [], declared := [],
    steps := #[], iterations := 0, line := 0 }

namespace State

/-- The bindings of the innermost scope, classes left out. -/
def localVariables (state : State) : List (String × Option Value) :=
  match state.scopes.get? state.current with
  | none => []
  | some scope =>
      (scope.bindings.filter fun binding => !binding.value.isClass).map fun binding =>
        (binding.name, some binding.value)

/-- Every name declared so far with its value, if it is in scope; names of classes are left out. -/
def allVariables (state : State) : List (String × Option Value) :=
  state.declared.filterMap fun name =>
    match state.scopes.lookup state.current name with
    | .ok value => if value.isClass then none else some (name, some value)
    | .error _ => some (name, none)

def visible (state : State) : VariablesMode → List (String × Option Value)
  | .local_ => state.localVariables
  | .all => state.allVariables

end State

/-- How a computation ends: with a result, or with a failure; in either case in a state. -/
abbrev Ending (α : Type) := EStateM.Result Failure State α

def Ending.state {α : Type} : Ending α → State
  | .ok _ state => state
  | .error _ state => state

/-- What a computation can be seen doing, beyond the states that it passes through. -/
inductive Mark
  | evaluating (expression : Expr)
  | closing (scope : Nat)
  deriving Repr

/-- A computation: how it ends, begun in a state, and what can be seen of it on the way. Only the ending is ever
computed; the states and marks on the way are what statements about whole runs speak of. -/
structure Machine (α : Type) where
  run : State → Ending α
  /-- The states from the beginning in a state to the end, both included. -/
  passes : State → State → Prop
  /-- The marks set on the way, each with the state in which it is set. -/
  marks : State → Mark → State → Prop
  passes_start : ∀ start, passes start start
  passes_ending : ∀ start, passes start (run start).state
  passes_marked : ∀ start mark state, marks start mark state → passes start state

namespace Machine

@[always_inline, inline]
protected def pure {α : Type} (result : α) : Machine α where
  run state := .ok result state
  passes start state := state = start
  marks _ _ _ := False
  passes_start _ := rfl
  passes_ending _ := rfl
  passes_marked _ _ _ impossible := impossible.elim

/-- What follows a computation begins where that ends, and only if it does not fail. -/
@[always_inline, inline]
protected def bind {α β : Type} (first : Machine α) (next : α → Machine β) : Machine β where
  run state :=
    match first.run state with
    | .ok result middle => (next result).run middle
    | .error failure middle => .error failure middle
  passes start state :=
    first.passes start state ∨
      ∃ result middle, first.run start = .ok result middle ∧ (next result).passes middle state
  marks start mark state :=
    first.marks start mark state ∨
      ∃ result middle, first.run start = .ok result middle ∧ (next result).marks middle mark state
  passes_start start := .inl (first.passes_start start)
  passes_ending start := by
    have ending := first.passes_ending start
    cases outcome : first.run start with
    | ok result middle => exact .inr ⟨result, middle, rfl, (next result).passes_ending middle⟩
    | error failure middle =>
        rw [outcome] at ending
        exact .inl ending
  passes_marked start mark state := by
    rintro (marked | ⟨result, middle, ended, marked⟩)
    · exact .inl (first.passes_marked start mark state marked)
    · exact .inr ⟨result, middle, ended, (next result).passes_marked middle mark state marked⟩

instance : Monad Machine where
  pure := Machine.pure
  bind := Machine.bind

@[always_inline, inline]
protected def modifyGet {α : Type} (change : State → α × State) : Machine α where
  run state := .ok (change state).1 (change state).2
  passes start state := state = start ∨ state = (change start).2
  marks _ _ _ := False
  passes_start _ := .inl rfl
  passes_ending _ := .inr rfl
  passes_marked _ _ _ impossible := impossible.elim

@[always_inline, inline]
protected def get : Machine State where
  run state := .ok state state
  passes start state := state = start
  marks _ _ _ := False
  passes_start _ := rfl
  passes_ending _ := rfl
  passes_marked _ _ _ impossible := impossible.elim

instance : MonadStateOf State Machine where
  get := Machine.get
  set state := Machine.modifyGet fun _ => ((), state)
  modifyGet := Machine.modifyGet

/-- Fails. Nothing in a run handles a failure. -/
@[always_inline, inline]
def raise {α : Type} (failure : Failure) : Machine α where
  run state := .error failure state
  passes start state := state = start
  marks _ _ _ := False
  passes_start _ := rfl
  passes_ending _ := rfl
  passes_marked _ _ _ impossible := impossible.elim

@[always_inline, inline]
def mark (mark : Mark) : Machine Unit where
  run state := .ok () state
  passes start state := state = start
  marks start other state := other = mark ∧ state = start
  passes_start _ := rfl
  passes_ending _ := rfl
  passes_marked _ _ _ marked := marked.2

def ofOutcome {α : Type} (outcome : Except Failure α) : Machine α :=
  match outcome with
  | .ok value => pure value
  | .error failure => raise failure

def failOn {α : Type} (line : Nat) (issue : Issue) : Machine α :=
  raise (.onLine line issue)

def fail {α : Type} (issue : Issue) : Machine α :=
  raise (.bare issue)

/-- Records a step, unless there are as many as allowed. -/
def record (options : Options) (line : Nat) (console : Option Text) (event : Option Event) :
    Machine Unit := do
  if options.maxSteps ≤ (← get).steps.size then failOn line (.stepLimit options.maxSteps)
  modify fun state =>
    let step : Step :=
      { line, bindings := state.visible options.mode, heap := state.heap, frames := state.frames, console,
        event }
    { state with steps := state.steps.push step }

/-- Counts one more round of a loop, unless there were as many as allowed. -/
def tick (options : Options) (line : Nat) : Machine Unit := do
  modify fun state => { state with iterations := state.iterations + 1 }
  if options.maxSteps < (← get).iterations then failOn line (.stepLimit options.maxSteps)

def atLine (line : Nat) : Machine Unit :=
  modify fun state => { state with line }

def lookup (name : String) : Machine Value := do
  let state ← get
  ofOutcome (state.scopes.lookup state.current name)

def noteDeclared (name : String) : Machine Unit :=
  modify fun state =>
    if state.declared.contains name then state else { state with declared := state.declared ++ [name] }

def declareIn (scope : Nat) (name : String) (value : Value) (typeName : Option String) : Machine Unit := do
  let (_, scopes) ← ofOutcome ((← get).scopes.declare scope name value typeName)
  modify fun state => { state with scopes }

/-- Opens a scope inside another, without entering it. -/
def openScope (parent : Nat) : Machine Nat := do
  let handle := (← get).scopes.size
  modify fun state => { state with scopes := state.scopes.opened (some parent) }
  return handle

def enterScope (handle : Nat) : Machine Unit :=
  modify fun state => { state with current := handle }

def leaveScope (handle outer : Nat) : Machine Unit := do
  mark (.closing handle)
  modify fun state => { state with scopes := state.scopes.released handle, current := outer }

def inScope {α : Type} (body : Machine α) : Machine α := do
  let outer := (← get).current
  let handle ← openScope outer
  enterScope handle
  let result ← body
  leaveScope handle outer
  return result

def pushFrame (frame : Frame) : Machine Unit :=
  modify fun state => { state with frames := frame :: state.frames }

def popFrame : Machine Unit :=
  modify fun state => { state with frames := state.frames.tail }

def allocate (options : Options) (line : Nat) (cell : Cell) : Machine Value := do
  let handle := (← get).heap.size
  modify fun state => { state with heap := state.heap.allocate cell }
  record options line none (some .allocation)
  return .ref handle

def dereference (value : Value) (action : String) (line : Nat) : Machine (Nat × Cell) := do
  match value with
  | .ref handle =>
      match (← get).heap.get? handle with
      | some cell => return (handle, cell)
      | none => raise (.fault .missingHandle)
  | .null => failOn line (.onNull action)
  | _ => failOn line (.onValue action value.kind)

end Machine

/-- A place that can be read and written: a variable seen from a scope, an element of an array, or a field of an
object. The length of an array can only be read. -/
inductive Slot
  | binding (scope : Nat) (name : String)
  | element (handle position : Nat)
  | field (handle : Nat) (name : String)
  | length (size : Nat)
  deriving DecidableEq, Repr

namespace Slot

open Machine

def ofName (name : String) : Machine Slot := do
  let state ← get
  let _ ← ofOutcome (state.scopes.resolve state.current name)
  return .binding state.current name

def ofIndex (line : Nat) (container index : Value) : Machine Slot := do
  let (handle, cell) ← dereference container "index into" line
  match cell with
  | .object className _ => failOn line (.indexIntoObject className)
  | .array _ values =>
      match index.integral? with
      | none => failOn line (.indexKind index.kind)
      | some position =>
          if 0 ≤ position ∧ position < values.size then return .element handle position.toNat
          else
            let text ← ofOutcome (liftFault (Number.integerText position))
            failOn line (.outOfBounds text values.size)

/-- The slot of an object's field or of an array's length. -/
def ofField (line : Nat) (container : Value) (name : String) : Machine Slot := do
  let (handle, cell) ← dereference container ("access '" ++ name ++ "' on") line
  match cell with
  | .object .. => return .field handle name
  | .array _ values =>
      if name = "length" then return .length values.size else failOn line (.noArrayMember name)

def read : Slot → Machine Value
  | binding scope name => do ofOutcome ((← get).scopes.lookup scope name)
  | element handle position => do
      match (← get).heap.get? handle with
      | some (.array _ values) =>
          match values[position]? with
          | some value => return value
          | none => raise (.fault .missingHandle)
      | _ => raise (.fault .missingHandle)
  | field handle name => do
      match (← get).heap.get? handle with
      | some (.object className fields) =>
          match fields.lookup name with
          | some value => return value
          | none => fail (.unassignedField name className)
      | _ => raise (.fault .missingHandle)
  | length size => return .int size

/-- Writes a value, and yields it as it was stored. -/
def write (slot : Slot) (value : Value) : Machine Value := do
  match slot with
  | binding scope name =>
      let (stored, scopes) ← ofOutcome ((← get).scopes.assign scope name value)
      modify fun state => { state with scopes }
      return stored
  | element handle position =>
      match (← get).heap.get? handle with
      | some (.array elementType values) =>
          let stored ← ofOutcome (value.coerce (some elementType))
          let cell := Cell.array elementType (values.setIfInBounds position stored)
          modify fun state => { state with heap := state.heap.set handle cell }
          return stored
      | _ => raise (.fault .missingHandle)
  | field handle name =>
      match (← get).heap.get? handle with
      | some (.object className fields) =>
          let cell := Cell.object className (Pairs.put name value fields)
          modify fun state => { state with heap := state.heap.set handle cell }
          return value
      | _ => raise (.fault .missingHandle)
  | length _ => fail .lengthIsFinal

end Slot

end Stepwise
