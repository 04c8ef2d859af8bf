import Stepwise.Proofs.Evaluator

/-!
# Couplings: two runs side by side

A coupling says how the states of two runs agree, the left one and the right one. Two computations that are coupled,
begun in states that agree, end alike: they yield the same result in states that agree again, or they fail with the
same failure. The left run may also stop with a failure that excuses whatever the right one does from there on.

What is known of one run alone is not shown here over again: a coupling may assume it of every state that the left run
passes through. In turn it tells of the left run that every state it passed leads to the one in which it completes.

The two runs may have their scopes under different handles. Where one run is in a scope, the other is in its place.

This module states what a coupling has to guarantee for each operation of the machine, and how computations that are
put together from coupled ones are coupled. Nothing here asks that scopes are closed in order or that handles lead to
records; where they do not, both runs fail alike.
-/

namespace Stepwise

set_option autoImplicit false

/-- How two runs are compared. -/
structure Coupling where
  left : Context
  right : Context
  /-- What is known of every state that the left run passes through. -/
  known : State → Prop
  /-- How the states of the two runs agree, with room for so many more frames. -/
  agree : Nat → State → State → Prop
  /-- The handles of the scopes that the computations open themselves. -/
  own : Nat → Prop
  /-- How a state of the left run can lead to another. -/
  leads : State → State → Prop
  /-- How the states agree in which both runs fail. -/
  failing : State → State → Prop
  /-- The failures of the left run after which the right one may do anything. -/
  stops : Failure → Prop
  leads_refl : ∀ state, leads state state
  leads_trans : ∀ {first second third}, leads first second → leads second third → leads first third
  /-- The handle of the scope where the right run is when the left one is in a scope. -/
  place : Nat → Nat := fun handle => handle

def Frame.placed (place : Nat → Nat) (frame : Frame) : Frame :=
  { frame with scope := place frame.scope }

def Slot.placed (place : Nat → Nat) : Slot → Slot
  | .binding scope name => .binding (place scope) name
  | slot => slot

/-- The state with a name among those declared so far. -/
def State.noting (name : String) (state : State) : State :=
  if state.declared.contains name then state else { state with declared := state.declared ++ [name] }

namespace State

theorem noting_eq (name : String) (state : State) :
    state.noting name = { state with declared := (state.noting name).declared } := by
  unfold noting
  split <;> rfl

@[simp] theorem current_noting (name : String) (state : State) : (state.noting name).current = state.current := by
  rw [noting_eq]

@[simp] theorem scopes_noting (name : String) (state : State) : (state.noting name).scopes = state.scopes := by
  rw [noting_eq]

@[simp] theorem steps_noting (name : String) (state : State) : (state.noting name).steps = state.steps := by
  rw [noting_eq]

@[simp] theorem noting_scopes (name : String) (state : State) (scopes : Scopes) :
    State.noting name { state with scopes } = { state.noting name with scopes } := by
  simp only [noting]
  split <;> rfl

@[simp] theorem noting_steps (name : String) (state : State) (steps : Array Step) :
    State.noting name { state with steps } = { state.noting name with steps } := by
  simp only [noting]
  split <;> rfl

end State

namespace Coupling

variable {C : Coupling} {room : Nat} {one two : State} {α β : Type}

/-- The scopes in which both runs may look and declare: the global one and those they opened themselves. -/
def shared (C : Coupling) (handle : Nat) : Prop :=
  handle = globalScope ∨ C.own handle

theorem shared_global (C : Coupling) : C.shared globalScope := .inl rfl

/-- The states agree, and the current scope is one in which both runs may look. -/
structure Ready (C : Coupling) (room : Nat) (one two : State) : Prop where
  agree : C.agree room one two
  current : C.shared one.current

def slot (C : Coupling) : Slot → Prop
  | .binding scope _ => C.shared scope
  | _ => True

inductive Alike (C : Coupling) (done : State → State → α → Prop) : Ending α → Ending α → Prop
  | completed {result : α} {one two : State} (finished : done one two result) :
      Alike C done (.ok result one) (.ok result two)
  | failed {failure : Failure} {one two : State} (agree : C.failing one two) :
      Alike C done (.error failure one) (.error failure two)
  | stopped {failure : Failure} {one : State} {ending : Ending α} (stops : C.stops failure) :
      Alike C done (.error failure one) ending

/-- Two computations, begun in two states, end alike if the left one passes through known states only. If they
complete, then as told, and every state that the left one passed leads to its last. -/
def Runs (C : Coupling) (one two : State) (left right : Machine α) (done : State → State → α → Prop) : Prop :=
  (∀ state, left.passes one state → C.known state) →
    C.Alike
      (fun oneEnd twoEnd result =>
        (∀ state, left.passes one state → C.leads state oneEnd) ∧ done oneEnd twoEnd result)
      (left.run one) (right.run two)

/-- Two evaluations that are begun in states that agree and complete in such states. -/
def Couples (C : Coupling) (room : Nat) (one two : State) (left right : Machine α) (required : α → Prop) : Prop :=
  C.Runs one two left right fun oneEnd twoEnd result => C.Ready room oneEnd twoEnd ∧ required result

namespace Runs

variable {left right : Machine α} {nextLeft nextRight : α → Machine β}

theorem imp {done weaker : State → State → α → Prop} (runs : C.Runs one two left right done)
    (weakens : ∀ oneEnd twoEnd result, done oneEnd twoEnd result → weaker oneEnd twoEnd result) :
    C.Runs one two left right weaker := by
  intro known
  have alike := runs known
  generalize left.run one = first at alike ⊢
  generalize right.run two = second at alike ⊢
  cases alike with
  | completed finished => exact .completed ⟨finished.1, weakens _ _ _ finished.2⟩
  | failed agree => exact .failed agree
  | stopped stops => exact .stopped stops

/-- The state in which the left computation begins is known. -/
theorem given {done : State → State → α → Prop} (runs : C.known one → C.Runs one two left right done) :
    C.Runs one two left right done :=
  fun known => runs (known one (left.passes_start one)) known

/-- The state in which the left computation begins leads to the one in which it completes. -/
theorem led {done : State → State → α → Prop} (runs : C.Runs one two left right done) :
    C.Runs one two left right fun oneEnd twoEnd result => C.leads one oneEnd ∧ done oneEnd twoEnd result := by
  intro known
  have alike := runs known
  generalize left.run one = first at alike ⊢
  generalize right.run two = second at alike ⊢
  cases alike with
  | completed finished =>
      have climbs := finished.1 one (left.passes_start one)
      exact .completed ⟨finished.1, climbs, finished.2⟩
  | failed agree => exact .failed agree
  | stopped stops => exact .stopped stops

/-- What is known of the ending of the left computation by itself. -/
theorem also {done : State → State → α → Prop} {more : State → α → Prop} (runs : C.Runs one two left right done)
    (implies : ∀ result final, left.run one = .ok result final → more final result) :
    C.Runs one two left right fun oneEnd twoEnd result => more oneEnd result ∧ done oneEnd twoEnd result := by
  intro known
  have alike := runs known
  generalize ended : left.run one = first at alike ⊢
  generalize right.run two = second at alike ⊢
  cases alike with
  | completed finished => exact .completed ⟨finished.1, implies _ _ ended, finished.2⟩
  | failed agree => exact .failed agree
  | stopped stops => exact .stopped stops

theorem of_run_right {other : Machine α} {done : State → State → α → Prop} (same : right.run two = other.run two)
    (runs : C.Runs one two left other done) : C.Runs one two left right done := by
  intro known
  rw [same]
  exact runs known

theorem seq {middle : State → State → α → Prop} {done : State → State → β → Prop}
    (runs : C.Runs one two left right middle)
    (others : ∀ result oneNext twoNext, middle oneNext twoNext result →
      C.Runs oneNext twoNext (nextLeft result) (nextRight result) done) :
    C.Runs one two (left >>= nextLeft) (right >>= nextRight) done := by
  intro known
  have alike := runs fun state passed => known state (.inl passed)
  rw [Machine.run_bind, Machine.run_bind]
  generalize ended : left.run one = first at alike ⊢
  generalize right.run two = second at alike ⊢
  cases alike with
  | failed agree => exact .failed agree
  | stopped stops => exact .stopped stops
  | @completed result oneNext twoNext finished =>
      obtain ⟨climbs, held⟩ := finished
      have further := others result oneNext twoNext held fun state passed =>
        known state (.inr ⟨result, oneNext, ended, passed⟩)
      dsimp only
      generalize last : (nextLeft result).run oneNext = first at further ⊢
      generalize (nextRight result).run twoNext = second at further ⊢
      cases further with
      | failed agree => exact .failed agree
      | stopped stops => exact .stopped stops
      | completed finished =>
          apply Alike.completed
          constructor
          · rintro state (passed | ⟨value, middle, yielded, passed⟩)
            · have next := finished.1 oneNext ((nextLeft result).passes_start oneNext)
              exact C.leads_trans (climbs state passed) next
            · rw [ended] at yielded
              cases yielded
              exact finished.1 state passed
          · exact finished.2

theorem yields {done : State → State → α → Prop} {result : α} (finished : done one two result) :
    C.Runs one two (pure result) (pure result) done := by
  intro _
  apply Alike.completed
  constructor
  · intro state passed
    cases passed
    exact C.leads_refl one
  · exact finished

theorem fails {done : State → State → α → Prop} {failure : Failure} (agree : C.failing one two) :
    C.Runs one two (Machine.raise failure) (Machine.raise failure) done :=
  fun _ => .failed agree

theorem outcome {done : State → State → α → Prop} {outcome : Except Failure α} (agree : C.failing one two)
    (finished : ∀ result, outcome = .ok result → done one two result) :
    C.Runs one two (Machine.ofOutcome outcome) (Machine.ofOutcome outcome) done := by
  cases outcome with
  | ok value => exact yields (finished value rfl)
  | error failure => exact fails agree

theorem fails_seq {done : State → State → β → Prop} {failure : Failure} (agree : C.failing one two) :
    C.Runs one two (Machine.raise failure >>= nextLeft) (Machine.raise failure >>= nextRight) done :=
  fun _ => .failed agree

/-- What comes after computations of which each is known to complete in one way. -/
theorem steps_seq {γ : Type} {left : Machine α} {right : Machine γ} {nextLeft : α → Machine β}
    {nextRight : γ → Machine β} {done : State → State → β → Prop} {first : α} {second : γ} {oneNext twoNext : State}
    (yieldsLeft : left.run one = .ok first oneNext) (climbs : ∀ state, left.passes one state → C.leads state oneNext)
    (yieldsRight : right.run two = .ok second twoNext)
    (runs : C.Runs oneNext twoNext (nextLeft first) (nextRight second) done) :
    C.Runs one two (left >>= nextLeft) (right >>= nextRight) done := by
  intro known
  have alike := runs fun state passed => known state (.inr ⟨first, oneNext, yieldsLeft, passed⟩)
  rw [Machine.run_bind_of_ok _ yieldsLeft, Machine.run_bind_of_ok _ yieldsRight]
  generalize (nextLeft first).run oneNext = oneEnding at alike ⊢
  generalize (nextRight second).run twoNext = twoEnding at alike ⊢
  cases alike with
  | failed agree => exact .failed agree
  | stopped stops => exact .stopped stops
  | completed finished =>
      apply Alike.completed
      constructor
      · rintro state (passed | ⟨seen, same, yielded, passed⟩)
        · exact C.leads_trans (climbs state passed) (finished.1 oneNext ((nextLeft first).passes_start oneNext))
        · rw [yieldsLeft] at yielded
          cases yielded
          exact finished.1 state passed
      · exact finished.2

/-- What comes after computations that have no effect, and that may yield different results on the two sides. -/
theorem silent_seq {γ : Type} {left : Machine α} {right : Machine γ} {nextLeft : α → Machine β}
    {nextRight : γ → Machine β} {done : State → State → β → Prop} {first : α} {second : γ}
    (yieldsLeft : left.run one = .ok first one) (still : ∀ state, left.passes one state → state = one)
    (yieldsRight : right.run two = .ok second two)
    (runs : C.Runs one two (nextLeft first) (nextRight second) done) :
    C.Runs one two (left >>= nextLeft) (right >>= nextRight) done := by
  apply steps_seq yieldsLeft _ yieldsRight runs
  intro state passed
  rw [still state passed]
  exact C.leads_refl one

theorem yields_seq {γ : Type} {nextLeft : α → Machine β} {nextRight : γ → Machine β}
    {done : State → State → β → Prop} {first : α} {second : γ}
    (runs : C.Runs one two (nextLeft first) (nextRight second) done) :
    C.Runs one two (pure first >>= nextLeft) (pure second >>= nextRight) done :=
  silent_seq rfl (fun _ passed => passed) rfl runs

theorem look {nextLeft nextRight : State → Machine β} {done : State → State → β → Prop}
    (runs : C.Runs one two (nextLeft one) (nextRight two) done) :
    C.Runs one two ((get : Machine State) >>= nextLeft) ((get : Machine State) >>= nextRight) done :=
  silent_seq rfl (fun _ passed => passed) rfl runs

/-- The right computation may look at its state where the left one does not. -/
theorem look_right {next : State → Machine α} {done : State → State → α → Prop}
    (runs : C.Runs one two left (next two) done) : C.Runs one two left ((get : Machine State) >>= next) done :=
  runs

theorem change_right {other : State → State} {next : Unit → Machine α} {done : State → State → α → Prop}
    (runs : C.Runs one (other two) left (next ()) done) :
    C.Runs one two left ((modify other : Machine Unit) >>= next) done :=
  runs

theorem mark_seq {sign other : Mark} {nextLeft nextRight : Unit → Machine β} {done : State → State → β → Prop}
    (runs : C.Runs one two (nextLeft ()) (nextRight ()) done) :
    C.Runs one two (Machine.mark sign >>= nextLeft) (Machine.mark other >>= nextRight) done :=
  silent_seq rfl (fun _ passed => passed) rfl runs

theorem change {update other : State → State} {done : State → State → Unit → Prop}
    (leads : C.leads one (update one)) (finished : done (update one) (other two) ()) :
    C.Runs one two (modify update) (modify other) done := by
  intro _
  apply Alike.completed
  constructor
  · rintro state (rfl | rfl)
    · exact leads
    · exact C.leads_refl _
  · exact finished

theorem change_seq {update other : State → State} {nextLeft nextRight : Unit → Machine β}
    {done : State → State → β → Prop} (leads : C.leads one (update one))
    (runs : C.Runs (update one) (other two) (nextLeft ()) (nextRight ()) done) :
    C.Runs one two ((modify update : Machine Unit) >>= nextLeft) ((modify other : Machine Unit) >>= nextRight)
      done := by
  have changes : C.Runs one two (modify update : Machine Unit) (modify other) fun oneEnd twoEnd _ =>
      oneEnd = update one ∧ twoEnd = other two := change leads ⟨rfl, rfl⟩
  apply changes.seq
  rintro - oneEnd twoEnd ⟨rfl, rfl⟩
  exact runs

theorem open_seq {parent other : Nat} {nextLeft nextRight : Nat → Machine β} {done : State → State → β → Prop}
    (leads : C.leads one { one with scopes := one.scopes.opened (some parent) })
    (runs : C.Runs { one with scopes := one.scopes.opened (some parent) }
      { two with scopes := two.scopes.opened (some other) } (nextLeft one.scopes.size) (nextRight two.scopes.size)
      done) :
    C.Runs one two (Machine.openScope parent >>= nextLeft) (Machine.openScope other >>= nextRight) done := by
  apply steps_seq rfl _ rfl runs
  rintro state (rfl | ⟨_, _, ⟨⟩, (rfl | rfl) | ⟨_, _, ⟨⟩, rfl⟩⟩)
  · exact leads
  · exact leads
  · exact C.leads_refl _
  · exact C.leads_refl _

/-- The right computation has a scope of its own. -/
theorem inScope_right {body : Machine α} {left : Machine β} {finish : α → β} {done : State → State → β → Prop}
    (runs : C.Runs one two.entering left (body >>= fun result => pure (finish result)) fun oneEnd twoEnd result =>
      done oneEnd { twoEnd with scopes := twoEnd.scopes.released two.scopes.size, current := two.current } result) :
    C.Runs one two left (Machine.inScope body >>= fun result => pure (finish result)) done := by
  intro known
  have alike := runs known
  rw [Machine.run_bind] at alike
  rw [Machine.run_bind, Machine.run_inScope]
  generalize left.run one = first at alike ⊢
  generalize body.run two.entering = second at alike ⊢
  cases second with
  | ok result final =>
      cases alike with
      | completed finished => exact .completed finished
      | stopped stops => exact .stopped stops
  | error failure final =>
      cases alike with
      | failed agree => exact .failed agree
      | stopped stops => exact .stopped stops

end Runs

/-- What a change of scopes yields on both sides: the same failure, or the same value in states that agree. -/
inductive Rescopes (holds : Scopes → Scopes → Prop) :
    Except Failure (Value × Scopes) → Except Failure (Value × Scopes) → Prop
  | failed (failure : Failure) : Rescopes holds (.error failure) (.error failure)
  | changed {stored : Value} {first second : Scopes} (agree : holds first second) :
      Rescopes holds (.ok (stored, first)) (.ok (stored, second))

theorem Rescopes.imp {holds weaker : Scopes → Scopes → Prop} {one two : Except Failure (Value × Scopes)}
    (rescopes : Rescopes holds one two) (weakens : ∀ first second, holds first second → weaker first second) :
    Rescopes weaker one two := by
  cases rescopes with
  | failed failure => exact .failed failure
  | changed agree => exact .changed (weakens _ _ agree)

theorem Rescopes.same {holds : Scopes → Scopes → Prop} {outcome : Except Failure (Value × Scopes)}
    (agree : ∀ stored scopes, outcome = .ok (stored, scopes) → holds scopes scopes) :
    Rescopes holds outcome outcome := by
  cases outcome with
  | error failure => exact .failed failure
  | ok changed => exact .changed (agree changed.1 changed.2 rfl)

/-- What a coupling has to guarantee where nothing is declared and no scope is opened. -/
structure ViewLaws (C : Coupling) : Prop where
  program : C.right.program = C.left.program
  leads_of_same : ∀ {before after : State}, after.declared = before.declared → after.steps = before.steps →
    after.iterations = before.iterations → C.leads before after
  failing : ∀ {room one two}, C.agree room one two → C.failing one two
  current : ∀ {room one two}, C.agree room one two → two.current = C.place one.current
  heap : ∀ {room one two}, C.agree room one two → two.heap = one.heap
  classes : ∀ {room one two}, C.agree room one two →
    two.frames.map Frame.className = one.frames.map Frame.className
  /-- A name is bound on both sides or on neither. -/
  resolve : ∀ {room one two handle} name, C.known one → C.agree room one two → C.shared handle →
    (two.scopes.resolve (C.place handle) name).map (fun _ => ()) = (one.scopes.resolve handle name).map fun _ => ()
  lookup : ∀ {room one two handle} name, C.known one → C.agree room one two → C.shared handle →
    two.scopes.lookup (C.place handle) name = one.scopes.lookup handle name
  assigned : ∀ {room one two handle} name value, C.known one → C.agree room one two → C.shared handle →
    Rescopes (fun first second => C.agree room { one with scopes := first } { two with scopes := second })
      (one.scopes.assign handle name value) (two.scopes.assign (C.place handle) name value)
  reheaped : ∀ {room one two} heap, C.agree room one two → C.agree room { one with heap } { two with heap }
  record : ∀ {room one two} line console event, C.Ready room one two →
    C.Couples room one two (Machine.record C.left.options line console event)
      (Machine.record C.right.options line console event) fun _ => True

structure Laws (C : Coupling) : Prop extends ViewLaws C where
  leads_noting : ∀ name state, C.leads state (state.noting name)
  global : ∀ {room one two}, C.agree room one two → C.place globalScope = globalScope
  size : ∀ {room one two}, C.agree room one two → two.scopes.size = C.place one.scopes.size
  /-- A variable or parameter is declared and its name noted. -/
  declared : ∀ {room one two handle} name value typeName, C.agree room one two → C.shared handle →
    Rescopes
      (fun first second =>
        C.agree room (State.noting name { one with scopes := first }) (State.noting name { two with scopes := second }))
      (one.scopes.declare handle name value (some typeName))
      (two.scopes.declare (C.place handle) name value (some typeName))
  /-- A class is declared. -/
  classDeclared : ∀ {room one two decl}, C.agree room one two → decl ∈ C.left.program.classes →
    Rescopes (fun first second => C.agree room { one with scopes := first } { two with scopes := second })
      (one.scopes.declare globalScope decl.name (.class_ decl.name decl.methodNames) none)
      (two.scopes.declare globalScope decl.name (.class_ decl.name decl.methodNames) none)
  atLine : ∀ {room one two} line, C.agree room one two → C.agree room { one with line } { two with line }
  opened : ∀ {room one two parent}, C.agree room one two → C.shared parent →
    C.own one.scopes.size ∧
      C.agree room { one with scopes := one.scopes.opened (some parent) }
        { two with scopes := two.scopes.opened (some (C.place parent)) }
  entered : ∀ {room one two} handle, C.agree room one two →
    C.agree room { one with current := handle } { two with current := C.place handle }
  closed : ∀ {room one two handle} outer, C.agree room one two → C.own handle →
    C.agree room { one with scopes := one.scopes.released handle, current := outer }
      { two with scopes := two.scopes.released (C.place handle), current := C.place outer }
  pushed : ∀ {room one two} frame, C.agree (room + 1) one two →
    C.agree room { one with frames := frame :: one.frames } { two with frames := frame.placed C.place :: two.frames }
  /-- A frame is popped after it was pushed, in states that agreed before. -/
  popped : ∀ {room before beside one two}, C.agree (room + 1) before beside → C.agree room one two →
    C.agree (room + 1) { one with frames := one.frames.tail } { two with frames := two.frames.tail }
  tick : ∀ {room one two} line, C.Ready room one two →
    C.Couples room one two (Machine.tick C.left.options line) (Machine.tick C.right.options line) fun _ => True

namespace Couples

variable {left right : Machine α} {nextLeft nextRight : α → Machine β}

theorem seq {middle : α → Prop} {required : β → Prop} (couples : C.Couples room one two left right middle)
    (others : ∀ result oneNext twoNext, C.Ready room oneNext twoNext → middle result →
      C.Couples room oneNext twoNext (nextLeft result) (nextRight result) required) :
    C.Couples room one two (left >>= nextLeft) (right >>= nextRight) required :=
  Runs.seq couples fun result oneNext twoNext done => others result oneNext twoNext done.1 done.2

theorem look {nextLeft nextRight : State → Machine β} {required : β → Prop}
    (couples : C.Couples room one two (nextLeft one) (nextRight two) required) :
    C.Couples room one two ((get : Machine State) >>= nextLeft) ((get : Machine State) >>= nextRight) required :=
  Runs.look couples

theorem yields {required : α → Prop} {result : α} (ready : C.Ready room one two) (holds : required result) :
    C.Couples room one two (pure result) (pure result) required :=
  Runs.yields ⟨ready, holds⟩

section Laws

variable (laws : C.ViewLaws)
include laws

theorem fails {required : α → Prop} {failure : Failure} (ready : C.Ready room one two) :
    C.Couples room one two (Machine.raise failure) (Machine.raise failure) required :=
  Runs.fails (laws.failing ready.agree)

theorem outcome {outcome : Except Failure α} (ready : C.Ready room one two) :
    C.Couples room one two (Machine.ofOutcome outcome) (Machine.ofOutcome outcome) fun _ => True :=
  Runs.outcome (laws.failing ready.agree) fun _ _ => ⟨ready, trivial⟩

end Laws

end Couples

/-- A computation that puts back the scope it started from couples from any scope in which both runs may look. -/
theorem Runs.couples {left right : Machine α} (ready : C.Ready room one two)
    (runs : C.Runs one two left right fun oneEnd twoEnd _ => C.agree room oneEnd twoEnd ∧ oneEnd.current = one.current) :
    C.Couples room one two left right fun _ => True :=
  runs.imp fun _ _ _ done => ⟨⟨done.1, done.2 ▸ ready.current⟩, trivial⟩

end Coupling

end Stepwise
