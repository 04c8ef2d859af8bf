import Stepwise.Proofs.Machine
import Stepwise.Proofs.Scopes
import Stepwise.Proofs.Tree
import Stepwise.Proofs.Values

/-!
# Disciplines: what every computation of a run keeps

A discipline says what holds of states, values, slots and failures of a run. This module states what a discipline has
to guarantee for each operation of the machine, and derives what each operation then does; `Discipline.Expression` and
its successors carry this through the whole syntax, so that a discipline whose laws hold is obeyed by every run.

The order of scopes is part of every discipline. The scopes of a state are placed: the scope around a scope is older,
and the scopes that the state refers to exist. A computation that completes restores the number of scopes, the current
scope and the call stack; it may have declared names in one scope, the free one, and leaves the shape of every other
scope alone.
-/

namespace Stepwise

set_option autoImplicit false

/-- The scopes that a state refers to exist, and each lies inside an older one. -/
structure State.Placed (state : State) : Prop where
  nested : state.scopes.Nested
  current : state.current < state.scopes.size
  frames : ∀ frame ∈ state.frames, frame.scope < state.scopes.size

/-- The scopes and the call stack are as before, but for the values that scopes hold and for the shape of the free
scope. -/
structure State.Restores (free : Option Nat) (before after : State) : Prop where
  size : after.scopes.size = before.scopes.size
  current : after.current = before.current
  frames : after.frames = before.frames
  shapes : ∀ handle, free ≠ some handle → after.scopes.shape? handle = before.scopes.shape? handle

/-- The states agree in all but the names declared so far, the count of rounds and the line in progress. -/
structure State.SameCore (before after : State) : Prop where
  scopes : after.scopes = before.scopes
  current : after.current = before.current
  heap : after.heap = before.heap
  frames : after.frames = before.frames
  steps : after.steps = before.steps

def State.recorded (options : Options) (line : Nat) (console : Option Text) (event : Option Event)
    (state : State) : State :=
  { state with
    steps := state.steps.push
      { line, bindings := state.visible options.mode, heap := state.heap, frames := state.frames, console, event } }

/-- A mark is set where it should be: an expression is evaluated under a call stack of those allowed, and the scope to
be closed is the newest. -/
def Mark.Apt (allowed : List Frame → Prop) : Mark → State → Prop
  | .evaluating _, state => allowed state.frames
  | .closing scope, state => scope + 1 = state.scopes.size

namespace State

theorem Restores.refl (free : Option Nat) (state : State) : Restores free state state :=
  ⟨rfl, rfl, rfl, fun _ _ => rfl⟩

theorem Restores.trans {free : Option Nat} {first second third : State} (one : Restores free first second)
    (two : Restores free second third) : Restores free first third where
  size := two.size.trans one.size
  current := two.current.trans one.current
  frames := two.frames.trans one.frames
  shapes handle apart := (two.shapes handle apart).trans (one.shapes handle apart)

theorem Restores.loosen {before after : State} (restored : Restores none before after) (free : Option Nat) :
    Restores free before after :=
  ⟨restored.size, restored.current, restored.frames, fun handle _ => restored.shapes handle nofun⟩

theorem SameCore.restores {before after : State} (same : SameCore before after) (free : Option Nat) :
    Restores free before after :=
  ⟨congrArg Scopes.size same.scopes, same.current, same.frames, fun handle _ => by rw [same.scopes]⟩

theorem SameCore.placed {before after : State} (same : SameCore before after) (placed : before.Placed) :
    after.Placed where
  nested := same.scopes ▸ placed.nested
  current := by
    rw [same.current, same.scopes]
    exact placed.current
  frames := by
    rw [same.frames, same.scopes]
    exact placed.frames

theorem restores_recorded (free : Option Nat) (options : Options) (line : Nat) (console : Option Text)
    (event : Option Event) (state : State) : Restores free state (state.recorded options line console event) :=
  ⟨rfl, rfl, rfl, fun _ _ => rfl⟩

theorem Placed.recorded {state : State} (placed : state.Placed) (options : Options) (line : Nat)
    (console : Option Text) (event : Option Event) : (state.recorded options line console event).Placed :=
  ⟨placed.nested, placed.current, placed.frames⟩

end State

def Context.Declares (context : Context) (method : Method) (className : String) : Prop :=
  ∃ decl name, context.program.class? className = some decl ∧ decl.method? name = some method

/-- The frames that a run pushes: of calls, of the initialisers of objects, and of static fields. -/
inductive Context.Pushes (context : Context) : Frame → Prop
  | call (method : Method) (className : String) (scope : Nat) (declared : context.Declares method className) :
      Pushes context { methodName := method.name, line := method.line, scope, className }
  | creation (decl : ClassDecl) (scope : Nat) (found : context.program.class? decl.name = some decl) :
      Pushes context { methodName := "<init>", line := decl.line, scope, className := decl.name }
  | statics (decl : ClassDecl) (member : decl ∈ context.program.classes) :
      Pushes context { methodName := "<clinit>", line := decl.line, scope := globalScope, className := decl.name }

/-- The field has one of the declarations, and a value converted to its type. -/
def Declaration.Give (declarations : List Declaration) (field : String × Value) : Prop :=
  ∃ declaration ∈ declarations, declaration.name = field.1 ∧ field.2.Fits (some declaration.typeName)

/-- What a cell is made of: elements converted to the element type, or the fields of an object of a class there is, all
that its declarations give and no others, each under a name of its own. -/
def Cell.Made (context : Context) (element : String → Prop) (admitted : Value → Prop) : Cell → Prop
  | .array elementType values => element elementType ∧ ∀ value ∈ values, admitted value ∧ value.Fits (some elementType)
  | .object className fields =>
      ∃ decl, context.program.class? className = some decl ∧
        (∀ field ∈ fields, admitted field.2 ∧ Declaration.Give decl.instanceFields field) ∧
        (∀ declaration ∈ decl.instanceFields, declaration.name ∈ fields.map Prod.fst) ∧
        (fields.map Prod.fst).Nodup

/-- A field is denoted only by an access to a member of its name. -/
def Slot.MemberOf (slot : Slot) (target : Expr) : Prop :=
  ∀ handle name, slot = .field handle name → ∃ line object nameLine, target = .field line object nameLine name

/-- What a run is to keep. -/
structure Discipline (context : Context) where
  /-- What is known of the expressions of the program. -/
  node : Expr → Prop
  /-- What holds whenever an evaluation begins or completes, with room for so many more frames. -/
  settled : Nat → State → Prop
  /-- What holds in every state on the way. -/
  throughout : State → Prop
  /-- How a state can follow another. -/
  leads : State → State → Prop
  /-- The values that a computation may hold in a state. -/
  value : State → Value → Prop
  slot : State → Slot → Prop
  tolerates : Failure → Prop
  /-- What is known of the marks that are set. -/
  watches : Mark → State → Prop := fun _ _ => True
  /-- What is known of the declarations of the program. -/
  declaration : Declaration → Prop := fun _ => True
  /-- The element types that arrays may have. -/
  element : String → Prop := fun _ => True
  /-- The values that a computation may write to a slot in a state. -/
  content : State → Slot → Value → Prop := fun _ _ _ => True

namespace Discipline

variable {context : Context}

/-- A pure operation fails only as is tolerated, and what it yields is as required. -/
def Accepts (D : Discipline context) {α : Type} (outcome : Except Failure α) (required : α → Prop) : Prop :=
  (∀ result, outcome = .ok result → required result) ∧ ∀ failure, outcome = .error failure → D.tolerates failure

def Finds (D : Discipline context) {α : Type} (start : State) (computation : Machine α) (required : α → Prop) :
    Prop :=
  (∀ result final, computation.run start = .ok result final → required result) ∧
    ∀ failure final, computation.run start = .error failure final → D.tolerates failure

theorem Accepts.also {D : Discipline context} {α : Type} {outcome : Except Failure α} {required more : α → Prop}
    (accepts : D.Accepts outcome required) (implies : ∀ result, outcome = .ok result → more result) :
    D.Accepts outcome fun result => required result ∧ more result :=
  ⟨fun result same => ⟨accepts.1 result same, implies result same⟩, accepts.2⟩

namespace Finds

variable {D : Discipline context} {start : State} {α β : Type}

theorem also {computation : Machine α} {required more : α → Prop} (finds : D.Finds start computation required)
    (implies : ∀ result final, computation.run start = .ok result final → more result) :
    D.Finds start computation fun result => required result ∧ more result :=
  ⟨fun result final ended => ⟨finds.1 result final ended, implies result final ended⟩, finds.2⟩

theorem yields {result : α} {required : α → Prop} (holds : required result) :
    D.Finds start (pure result : Machine α) required := by
  refine ⟨?_, ?_⟩
  · intro other final ended
    cases ended
    exact holds
  · intro failure final ended
    cases ended

theorem fails {failure : Failure} {required : α → Prop} (tolerated : D.tolerates failure) :
    D.Finds start (Machine.raise failure : Machine α) required := by
  refine ⟨?_, ?_⟩
  · intro result final ended
    cases ended
  · intro other final ended
    cases ended
    exact tolerated

theorem ofOutcome {outcome : Except Failure α} {required : α → Prop} (accepts : D.Accepts outcome required) :
    D.Finds start (Machine.ofOutcome outcome) required := by
  cases outcome with
  | ok value => exact yields (accepts.1 value rfl)
  | error failure => exact fails (accepts.2 failure rfl)

theorem look {next : State → Machine α} {required : α → Prop} (finds : D.Finds start (next start) required) :
    D.Finds start ((get : Machine State) >>= next) required :=
  finds

theorem seq {first : Machine α} {next : α → Machine β} {middle : α → Prop} {required : β → Prop}
    (finds : D.Finds start first middle) (reads : first.ReadsOnly)
    (others : ∀ result, middle result → D.Finds start (next result) required) :
    D.Finds start (first >>= next) required := by
  refine ⟨?_, ?_⟩
  · intro result final ended
    obtain ⟨value, same, ended, followed⟩ := Machine.run_bind_eq_ok.mp ended
    obtain rfl : same = start := reads.state_of_ok ended
    exact (others value (finds.1 value same ended)).1 result final followed
  · intro failure final ended
    rcases Machine.run_bind_eq_error.mp ended with ended | ⟨value, same, ended, followed⟩
    · exact finds.2 failure final ended
    · obtain rfl : same = start := reads.state_of_ok ended
      exact (others value (finds.1 value same ended)).2 failure final followed

end Finds

/-- A state in which an evaluation may begin. -/
structure Ready (D : Discipline context) (room : Nat) (state : State) : Prop where
  placed : state.Placed
  settled : D.settled room state

structure StateLaws (D : Discipline context) : Prop where
  throughout_of_settled : ∀ {room state}, D.settled room state → D.throughout state
  leads_refl : ∀ state, D.leads state state
  leads_trans : ∀ {first second third}, D.leads first second → D.leads second third → D.leads first third
  bookkept : ∀ {room state after}, D.Ready room state → state.SameCore after →
    D.settled room after ∧ D.leads state after
  recorded : ∀ {room state} line console event, D.Ready room state → event ≠ some .allocation →
    D.settled room (state.recorded context.options line console event) ∧
      D.leads state (state.recorded context.options line console event)
  declared : ∀ {room state handle name value typeName stored scopes}, D.Ready room state → D.value state value →
    state.scopes.declare handle name value typeName = .ok (stored, scopes) →
    D.settled room { state with scopes } ∧ D.leads state { state with scopes }
  stored : ∀ {room state slot value stored written} line, D.Ready room state → D.slot state slot →
    D.value state value → D.content state slot value → (slot.write value).run state = .ok stored written →
    D.throughout written ∧ D.settled room (written.recorded context.options line none none) ∧
      D.leads state (written.recorded context.options line none none) ∧
      D.value (written.recorded context.options line none none) stored
  allocated : ∀ {room state cell after} line, D.Ready room state →
    cell.Made context D.element (D.value state) → after = { state with heap := state.heap.allocate cell } →
    D.throughout after ∧ D.settled room (after.recorded context.options line none (some .allocation)) ∧
      D.leads state (after.recorded context.options line none (some .allocation)) ∧
      D.value (after.recorded context.options line none (some .allocation)) (.ref state.heap.size)
  opened : ∀ {room state parent}, D.Ready room state → parent < state.scopes.size →
    D.settled room { state with scopes := state.scopes.opened (some parent) } ∧
      D.leads state { state with scopes := state.scopes.opened (some parent) }
  entered : ∀ {room state handle}, D.Ready room state → handle < state.scopes.size →
    D.settled room { state with current := handle } ∧ D.leads state { state with current := handle }
  left : ∀ {room state handle outer}, D.Ready room state → handle + 1 = state.scopes.size → outer < handle →
    (∀ frame ∈ state.frames, frame.scope < handle) →
    D.settled room { state with scopes := state.scopes.released handle, current := outer } ∧
      D.leads state { state with scopes := state.scopes.released handle, current := outer }
  pushed : ∀ {room state frame}, D.Ready (room + 1) state → frame.scope < state.scopes.size →
    context.Pushes frame →
    D.settled room { state with frames := frame :: state.frames } ∧
      D.leads state { state with frames := frame :: state.frames }
  popped : ∀ {room state frame frames}, D.Ready room state → state.frames = frame :: frames →
    D.settled (room + 1) { state with frames } ∧ D.leads state { state with frames }

/-- What the expressions that write to a slot have to keep. -/
structure ContentLaws (D : Discipline context) : Prop where
  assigned : ∀ {room before after slot line target expression value}, D.node (.assign line target expression) →
    slot.MemberOf target → D.watches (.evaluating expression) before →
    (expression.eval context (Calls.within context room)).run before = .ok value after → D.content after slot value
  compounded : ∀ {room before after slot line target operator expression current operand result narrowed},
    D.node (.compound line target operator expression) → slot.MemberOf target → D.Ready room before →
    slot.read.run before = .ok current before → D.leads before after →
    Value.binary after.heap line (compoundOperator operator) current operand = .ok result →
    current.narrowedLike result = .ok narrowed → D.content after slot narrowed
  updated : ∀ state scope name value, D.content state (.binding scope name) value

theorem ContentLaws.of_all {D : Discipline context} (all : ∀ state slot value, D.content state slot value) :
    D.ContentLaws where
  assigned _ _ _ _ := all _ _ _
  compounded _ _ _ _ _ _ _ := all _ _ _
  updated _ _ _ _ := all _ _ _

structure ValueLaws (D : Discipline context) : Prop extends ContentLaws D where
  plain : ∀ state {value : Value}, value.IsPlain → D.value state value
  classValue : ∀ state {decl}, decl ∈ context.program.classes → D.value state (.class_ decl.name decl.methodNames)
  text : ∀ {line raw} state, D.node (.string line raw) → D.value state (.string raw)
  character : ∀ {line raw} state, D.node (.char line raw) → D.Finds state (Machine.literalChar raw) (D.value state)
  sized : ∀ {line elementType size}, D.node (.newArray line elementType size) → D.element elementType
  listed : ∀ {line elementType values}, D.node (.arrayOf line elementType values) → D.element elementType
  declaredElement : ∀ {declaration}, D.declaration declaration → declaration.typeName.endsWith "[]" = true →
    D.element (String.ofList (declaration.typeName.toList.dropLast.dropLast))
  value_mono : ∀ {before after value}, D.leads before after → D.value before value → D.value after value
  slot_mono : ∀ {before after slot}, D.leads before after → after.scopes.size = before.scopes.size →
    D.slot before slot → D.slot after slot
  benign : ∀ {failure : Failure}, failure.Benign → D.tolerates failure
  lookup : ∀ {room state} name, D.Ready room state → D.Finds state (Machine.lookup name) (D.value state)
  ofName : ∀ {room state} name, D.Ready room state → D.Finds state (Slot.ofName name) (D.slot state)
  here : ∀ {room state} name, D.Ready room state → D.slot state (.binding state.current name)
  ofIndex : ∀ {room state container index} line, D.Ready room state → D.value state container →
    D.value state index → D.Finds state (Slot.ofIndex line container index) (D.slot state)
  ofField : ∀ {room state container} line name, D.Ready room state → D.value state container →
    D.Finds state (Slot.ofField line container name) (D.slot state)
  read : ∀ {room state slot}, D.Ready room state → D.slot state slot → D.Finds state slot.read (D.value state)
  write_error : ∀ {room state after slot value failure}, D.Ready room state → D.slot state slot →
    D.value state value → (slot.write value).run state = .error failure after → D.tolerates failure
  declare_error : ∀ {room state handle name value typeName failure}, D.Ready room state →
    handle < state.scopes.size → D.value state value →
    state.scopes.declare handle name value typeName = .error failure → D.tolerates failure
  methodOf : ∀ {room state receiver} line name, D.Ready room state → D.value state receiver →
    D.Finds state (Machine.methodOf context line receiver name) fun _ => True
  binary : ∀ {room state left right} line operator, D.Ready room state → D.value state left →
    D.value state right → D.Accepts (Value.binary state.heap line operator left right) (D.value state)
  narrowed : ∀ {state result} (current : Value), D.value state result →
    D.Accepts (current.narrowedLike result) (D.value state)
  coerced : ∀ {state value} typeName, D.value state value → D.Accepts (value.coerce typeName) (D.value state)
  console : ∀ {room state arguments} (method : ConsoleMethod), D.Ready room state →
    (∀ value ∈ arguments, D.value state value) → D.Accepts (method.output state.heap arguments) fun _ => True

structure Laws (D : Discipline context) : Prop extends StateLaws D, ValueLaws D

/-- A discipline that asks nothing of values, slots, element types and failures. -/
structure Unrestricted (D : Discipline context) : Prop where
  value : ∀ state value, D.value state value
  slot : ∀ state slot, D.slot state slot
  element : ∀ elementType, D.element elementType
  tolerates : ∀ failure, D.tolerates failure

namespace Unrestricted

variable {D : Discipline context} {α : Type} {required : α → Prop}

theorem accepts (free : D.Unrestricted) (outcome : Except Failure α) (all : ∀ result, required result) :
    D.Accepts outcome required :=
  ⟨fun result _ => all result, fun failure _ => free.tolerates failure⟩

theorem finds (free : D.Unrestricted) (start : State) (computation : Machine α) (all : ∀ result, required result) :
    D.Finds start computation required :=
  ⟨fun result _ _ => all result, fun failure _ _ => free.tolerates failure⟩

theorem valueLaws (free : D.Unrestricted) (written : D.ContentLaws) : D.ValueLaws where
  toContentLaws := written
  plain state value _ := free.value state value
  classValue state _ _ := free.value state _
  text state _ := free.value state _
  character state _ := free.finds state _ (free.value state)
  sized _ := free.element _
  listed _ := free.element _
  declaredElement _ _ := free.element _
  value_mono _ _ := free.value _ _
  slot_mono _ _ _ := free.slot _ _
  benign _ := free.tolerates _
  lookup {_ state} _ _ := free.finds state _ (free.value state)
  ofName {_ state} _ _ := free.finds state _ (free.slot state)
  here _ _ := free.slot _ _
  ofIndex {_ state _ _} _ _ _ _ := free.finds state _ (free.slot state)
  ofField {_ state _} _ _ _ _ := free.finds state _ (free.slot state)
  read {_ state _} _ _ := free.finds state _ (free.value state)
  write_error _ _ _ _ := free.tolerates _
  declare_error _ _ _ _ := free.tolerates _
  methodOf {_ state _} _ _ _ _ := free.finds state _ fun _ => trivial
  binary {_ state _ _} _ _ _ _ _ := free.accepts _ (free.value state)
  narrowed {state _} _ _ := free.accepts _ (free.value state)
  coerced {state _} _ _ := free.accepts _ (free.value state)
  console _ _ _ := free.accepts _ fun _ => trivial

end Unrestricted

/-- What holds in every state on the way, the order of scopes included. -/
def Holds (D : Discipline context) (state : State) : Prop :=
  state.Placed ∧ D.throughout state

/-- A computation, begun in a state, keeps the discipline on the way, evaluates expressions under allowed call stacks
only, completes as told, or fails as is tolerated. -/
structure Upholds (D : Discipline context) (allowed : List Frame → Prop) (start : State) {α : Type}
    (computation : Machine α) (done : State → α → Prop) : Prop where
  passing : ∀ state, computation.passes start state → D.Holds state
  marking : ∀ sign state, computation.marks start sign state → sign.Apt allowed state
  ending : ∀ result final, computation.run start = .ok result final → done final result
  failing : ∀ failure final, computation.run start = .error failure final → D.tolerates failure

/-- What is known of marks holds of those that a computation sets. -/
def Watched (D : Discipline context) (start : State) {α : Type} (computation : Machine α) : Prop :=
  ∀ sign state, computation.marks start sign state → D.watches sign state

/-- A computation upholds the discipline if its marks are as is known. -/
def Runs (D : Discipline context) (allowed : List Frame → Prop) (start : State) {α : Type} (computation : Machine α)
    (done : State → α → Prop) : Prop :=
  D.Watched start computation → D.Upholds allowed start computation done

namespace Runs

variable {D : Discipline context} {allowed : List Frame → Prop} {start : State} {α β : Type}

theorem imp {computation : Machine α} {done weaker : State → α → Prop}
    (runs : D.Runs allowed start computation done)
    (weakens : ∀ final result, D.Holds final → done final result → weaker final result) :
    D.Runs allowed start computation weaker := by
  intro watched
  have upholds := runs watched
  refine ⟨upholds.passing, upholds.marking, fun result final ended => ?_, upholds.failing⟩
  exact weakens final result (upholds.passing final (Machine.passes_of_ok ended)) (upholds.ending result final ended)

/-- The ending itself may be known besides, and that the marks are as is known. -/
theorem also {computation : Machine α} {done : State → α → Prop} (runs : D.Runs allowed start computation done) :
    D.Runs allowed start computation fun final result =>
      done final result ∧ computation.run start = .ok result final ∧ D.Watched start computation := by
  intro watched
  have upholds := runs watched
  refine ⟨upholds.passing, upholds.marking, fun result final ended => ?_, upholds.failing⟩
  exact ⟨upholds.ending result final ended, ended, watched⟩

theorem allow {computation : Machine α} {done : State → α → Prop} {wider : List Frame → Prop}
    (runs : D.Runs allowed start computation done) (widens : ∀ frames, allowed frames → wider frames) :
    D.Runs wider start computation done := by
  intro watched
  have upholds := runs watched
  refine ⟨upholds.passing, fun sign state marked => ?_, upholds.ending, upholds.failing⟩
  have apt := upholds.marking sign state marked
  cases sign with
  | evaluating expression => exact widens state.frames apt
  | closing scope => exact apt

theorem unmarked {computation : Machine α} {done : State → α → Prop} {other : List Frame → Prop}
    (runs : D.Runs allowed start computation done) (unmarked : ∀ sign state, ¬computation.marks start sign state) :
    D.Runs other start computation done := by
  intro watched
  have upholds := runs watched
  exact ⟨upholds.passing, fun sign state marked => absurd marked (unmarked sign state), upholds.ending, upholds.failing⟩

/-- One computation after another. What the first yields is known when the second begins. -/
theorem seq {first : Machine α} {next : α → Machine β} {middle : State → α → Prop} {done : State → β → Prop}
    (runs : D.Runs allowed start first middle)
    (others : ∀ result state, D.Holds state → middle state result → D.Runs allowed state (next result) done) :
    D.Runs allowed start (first >>= next) done := by
  intro watched
  have upholds := runs fun sign state marked => watched sign state (.inl marked)
  have further : ∀ {result between}, first.run start = .ok result between →
      D.Upholds allowed between (next result) done := by
    intro result between ended
    refine others result between (upholds.passing between (Machine.passes_of_ok ended))
      (upholds.ending result between ended) fun sign state marked => ?_
    exact watched sign state (.inr ⟨result, between, ended, marked⟩)
  constructor
  case passing =>
    rintro state (passed | ⟨result, between, ended, passed⟩)
    · exact upholds.passing state passed
    · exact (further ended).passing state passed
  case marking =>
    rintro sign state (marked | ⟨result, between, ended, marked⟩)
    · exact upholds.marking sign state marked
    · exact (further ended).marking sign state marked
  case ending =>
    intro result final ended
    obtain ⟨value, between, ended, followed⟩ := Machine.run_bind_eq_ok.mp ended
    exact (further ended).ending result final followed
  case failing =>
    intro failure final ended
    rcases Machine.run_bind_eq_error.mp ended with ended | ⟨value, between, ended, followed⟩
    · exact upholds.failing failure final ended
    · exact (further ended).failing failure final followed

theorem reading {computation : Machine α} {done : State → α → Prop} (holds : D.Holds start)
    (reads : computation.ReadsOnly) (finds : D.Finds start computation (done start)) :
    D.Runs allowed start computation done := by
  refine fun _ => ⟨fun state passed => ?_, fun sign state marked => ?_, fun result final ended => ?_, finds.2⟩
  · rw [reads.passing start state passed]
    exact holds
  · exact absurd marked (reads.unmarked start sign state)
  · rw [reads.state_of_ok ended]
    exact finds.1 result final ended

theorem yields {done : State → α → Prop} {result : α} (holds : D.Holds start) (finished : done start result) :
    D.Runs allowed start (pure result : Machine α) done :=
  reading holds (.pure result) (.yields finished)

theorem fails {done : State → α → Prop} {failure : Failure} (holds : D.Holds start)
    (tolerated : D.tolerates failure) : D.Runs allowed start (Machine.raise failure : Machine α) done :=
  reading holds (.raise failure) (.fails tolerated)

theorem look {next : State → Machine β} {done : State → β → Prop}
    (runs : D.Runs allowed start (next start) done) : D.Runs allowed start ((get : Machine State) >>= next) done := by
  intro watched
  have upholds := runs fun sign state marked => watched sign state (.inr ⟨start, start, rfl, marked⟩)
  have holds : D.Holds start := upholds.passing start ((next start).passes_start start)
  have looks : D.Runs allowed start (get : Machine State) fun state seen => state = start ∧ seen = start := by
    refine reading holds .get ⟨?_, ?_⟩
    · intro seen final ended
      cases ended
      exact ⟨rfl, rfl⟩
    · intro failure final ended
      cases ended
  refine looks.seq ?_ watched
  rintro seen state - ⟨rfl, rfl⟩
  exact runs

theorem change {update : State → State} {done : State → Unit → Prop} (holds : D.Holds start)
    (after : D.Holds (update start)) (finished : done (update start) ()) :
    D.Runs allowed start (modify update : Machine Unit) done := by
  refine fun _ => ⟨?_, fun _ _ marked => marked.elim, fun result final ended => ?_, fun failure final ended => ?_⟩
  · rintro state (rfl | rfl)
    · exact holds
    · exact after
  · cases ended
    exact finished
  · cases ended

theorem change_seq {update : State → State} {next : Unit → Machine β} {done : State → β → Prop}
    (holds : D.Holds start) (runs : D.Runs allowed (update start) (next ()) done) :
    D.Runs allowed start ((modify update : Machine Unit) >>= next) done := by
  intro watched
  have upholds := runs fun sign state marked => watched sign state (.inr ⟨(), update start, rfl, marked⟩)
  have after : D.Holds (update start) := upholds.passing _ ((next ()).passes_start _)
  have changes : D.Runs allowed start (modify update : Machine Unit) fun state _ => state = update start :=
    change holds after rfl
  refine changes.seq ?_ watched
  rintro - state - rfl
  exact runs

theorem mark_seq {sign : Mark} {next : Unit → Machine β} {done : State → β → Prop} (apt : sign.Apt allowed start)
    (runs : D.Runs allowed start (next ()) done) : D.Runs allowed start (Machine.mark sign >>= next) done := by
  intro watched
  have upholds := runs fun other state marked => watched other state (.inr ⟨(), start, rfl, marked⟩)
  refine ⟨?_, ?_, upholds.ending, upholds.failing⟩
  · rintro state (passed | ⟨result, between, ended, passed⟩)
    · cases passed
      exact upholds.passing start ((next ()).passes_start start)
    · cases ended
      exact upholds.passing state passed
  · rintro other state (⟨rfl, rfl⟩ | ⟨result, between, ended, marked⟩)
    · exact apt
    · cases ended
      exact upholds.marking other state marked

end Runs

/-- A state follows another: an evaluation may go on in it, and what it does not concern is as before. -/
structure Follows (D : Discipline context) (free : Option Nat) (room : Nat) (before after : State) : Prop where
  ready : D.Ready room after
  restores : State.Restores free before after
  leads : D.leads before after

def Obeys (D : Discipline context) (free : Option Nat) (room : Nat) (start : State) {α : Type}
    (computation : Machine α) (required : State → α → Prop) : Prop :=
  D.Runs (start.frames <:+ ·) start computation fun final result =>
    D.Follows free room start final ∧ required final result

namespace Obeys

variable {D : Discipline context} {free : Option Nat} {room : Nat} {start : State} {α β : Type}

theorem imp {computation : Machine α} {required weaker : State → α → Prop}
    (obeys : D.Obeys free room start computation required)
    (weakens : ∀ final result, D.Follows free room start final → required final result → weaker final result) :
    D.Obeys free room start computation weaker :=
  Runs.imp obeys fun final result _ done => ⟨done.1, weakens final result done.1 done.2⟩

theorem also {computation : Machine α} {required : State → α → Prop}
    (obeys : D.Obeys free room start computation required) :
    D.Obeys free room start computation fun final result =>
      required final result ∧ computation.run start = .ok result final ∧ D.Watched start computation :=
  Runs.imp (Runs.also obeys) fun _ _ _ done => ⟨done.1.1, done.1.2, done.2⟩

/-- What declares nothing may be used where names may be declared. -/
theorem loosen {computation : Machine α} {required : State → α → Prop}
    (obeys : D.Obeys none room start computation required) (other : Option Nat) :
    D.Obeys other room start computation required :=
  Runs.imp obeys fun _ _ _ done => ⟨⟨done.1.ready, done.1.restores.loosen other, done.1.leads⟩, done.2⟩

theorem look {next : State → Machine β} {required : State → β → Prop}
    (obeys : D.Obeys free room start (next start) required) :
    D.Obeys free room start ((get : Machine State) >>= next) required :=
  Runs.look obeys

theorem mark_seq {sign : Mark} {next : Unit → Machine β} {required : State → β → Prop}
    (apt : sign.Apt (start.frames <:+ ·) start) (obeys : D.Obeys free room start (next ()) required) :
    D.Obeys free room start (Machine.mark sign >>= next) required :=
  Runs.mark_seq apt obeys

end Obeys

section Rules

variable {D : Discipline context} {free : Option Nat} {room : Nat} {start : State} {α β : Type} (laws : D.Laws)
include laws

theorem Ready.holds (ready : D.Ready room start) : D.Holds start :=
  ⟨ready.placed, laws.throughout_of_settled ready.settled⟩

theorem Follows.refl (ready : D.Ready room start) : D.Follows free room start start :=
  ⟨ready, .refl free start, laws.leads_refl start⟩

theorem Follows.trans {middle final : State} (one : D.Follows free room start middle)
    (two : D.Follows free room middle final) : D.Follows free room start final :=
  ⟨two.ready, one.restores.trans two.restores, laws.leads_trans one.leads two.leads⟩

theorem follows_of_sameCore (ready : D.Ready room start) {after : State} (same : start.SameCore after) :
    D.Follows free room start after := by
  obtain ⟨settled, leads⟩ := laws.bookkept ready same
  exact ⟨⟨same.placed ready.placed, settled⟩, same.restores free, leads⟩

theorem Obeys.seq {first : Machine α} {next : α → Machine β} {middle : State → α → Prop}
    {required : State → β → Prop} (obeys : D.Obeys free room start first middle)
    (others : ∀ result state, D.Follows free room start state → middle state result →
      D.Obeys free room state (next result) required) :
    D.Obeys free room start (first >>= next) required := by
  refine Runs.seq obeys ?_
  rintro result state - ⟨follows, holds⟩
  have runs := others result state follows holds
  unfold Obeys at runs
  rw [follows.restores.frames] at runs
  exact runs.imp fun final _ _ done => ⟨follows.trans laws done.1, done.2⟩

theorem Obeys.reading {computation : Machine α} {required : α → Prop} (ready : D.Ready room start)
    (reads : computation.ReadsOnly) (finds : D.Finds start computation required) :
    D.Obeys free room start computation fun final result => final = start ∧ required result := by
  refine Runs.reading (ready.holds laws) reads ⟨?_, finds.2⟩
  intro result final ended
  exact ⟨.refl laws ready, rfl, finds.1 result final ended⟩

/-- A computation that only looks at the state, and all that matters is what it finds. -/
theorem Obeys.finding {computation : Machine α} {required : State → α → Prop} (ready : D.Ready room start)
    (reads : computation.ReadsOnly) (finds : D.Finds start computation (required start)) :
    D.Obeys free room start computation required := by
  refine (reading laws ready reads finds).imp ?_
  rintro final result - ⟨rfl, holds⟩
  exact holds

theorem Obeys.yields {required : State → α → Prop} {result : α} (ready : D.Ready room start)
    (holds : required start result) : D.Obeys free room start (pure result : Machine α) required :=
  Runs.yields (ready.holds laws) ⟨.refl laws ready, holds⟩

theorem Obeys.fails {required : State → α → Prop} {failure : Failure} (ready : D.Ready room start)
    (tolerated : D.tolerates failure) :
    D.Obeys free room start (Machine.raise failure : Machine α) required :=
  Runs.fails (ready.holds laws) tolerated

theorem Obeys.failOn {required : State → α → Prop} (line : Nat) (issue : Issue) (ready : D.Ready room start) :
    D.Obeys free room start (Machine.failOn line issue : Machine α) required :=
  .fails laws ready (laws.benign trivial)

theorem Obeys.ofOutcome {outcome : Except Failure α} {required : α → Prop} (ready : D.Ready room start)
    (accepts : D.Accepts outcome required) :
    D.Obeys free room start (Machine.ofOutcome outcome) fun final result => final = start ∧ required result := by
  cases outcome with
  | ok value => exact .yields laws ready ⟨rfl, accepts.1 value rfl⟩
  | error failure => exact .fails laws ready (accepts.2 failure rfl)

theorem Obeys.change {update : State → State} (ready : D.Ready room start)
    (follows : D.Follows free room start (update start)) :
    D.Obeys free room start (modify update : Machine Unit) fun final _ => final = update start :=
  Runs.change (ready.holds laws) (follows.ready.holds laws) ⟨follows, rfl⟩

end Rules

end Discipline

end Stepwise
