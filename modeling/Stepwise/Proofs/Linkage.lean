import Stepwise.Proofs.Discipline.Run
import Stepwise.Proofs.Reading.Program
import Stepwise.Proofs.References
import Stepwise.Proofs.Scanning

/-!
# No handle leads nowhere

A state is linked if the references that variables, elements and fields hold lead to cells of the heap, the classes of
frames and objects are classes of the program, and what its steps show refers to cells of the same step. Cells are only
ever added, so a reference that is held while other code runs still leads to its cell afterwards. An object enters the
heap after its initialisers ran, with fields that refer to cells there are. This module shows that every change of the
state keeps it linked.
-/

namespace Stepwise

set_option autoImplicit false

/-- Whatever the cell holds is anchored, and its class exists. -/
def Cell.Anchored (context : Context) (heap : Heap) : Cell → Prop
  | .array _ values => ∀ value ∈ values, value.Anchored heap
  | .object className fields =>
      (context.program.class? className).isSome ∧ ∀ field ∈ fields, field.2.Anchored heap

def Heap.Anchored (context : Context) (heap : Heap) : Prop :=
  ∀ handle cell, heap.get? handle = some cell → cell.Anchored context heap

def Scopes.Anchored (heap : Heap) (scopes : Scopes) : Prop :=
  ∀ handle scope, scopes.get? handle = some scope → ∀ binding ∈ scope.bindings, binding.value.Anchored heap

structure Step.Anchored (context : Context) (step : Step) : Prop where
  bindings : ∀ entry ∈ step.bindings, ∀ value, entry.2 = some value → value.Anchored step.heap
  heap : step.heap.Anchored context

structure State.Linked (context : Context) (state : State) : Prop where
  scopes : state.scopes.Anchored state.heap
  heap : state.heap.Anchored context
  frames : ∀ frame ∈ state.frames, (context.program.class? frame.className).isSome
  steps : ∀ step ∈ state.steps, step.Anchored context

variable {context : Context}

theorem Cell.Anchored.mono {cell : Cell} {before after : Heap} (anchored : cell.Anchored context before)
    (continues : before.Continues after) : cell.Anchored context after := by
  cases cell with
  | array elementType values => exact fun value member => (anchored value member).mono continues
  | object className fields => exact ⟨anchored.1, fun field member => (anchored.2 field member).mono continues⟩

namespace Heap

theorem Anchored.allocate {heap : Heap} (anchored : heap.Anchored context) {cell : Cell}
    (made : cell.Anchored context heap) : (heap.allocate cell).Anchored context := by
  intro handle other found
  rcases get?_allocate_cases found with rfl | before
  · exact made.mono (heap.continues_allocate other)
  · exact (anchored handle other before).mono (heap.continues_allocate cell)

theorem Anchored.set {heap : Heap} (anchored : heap.Anchored context) {handle : Nat} {before after : Cell}
    (found : heap.get? handle = some before) (continues : before.Continues after)
    (holds : after.Anchored context heap) : (heap.set handle after).Anchored context := by
  have grows := continues_set found continues
  intro other cell there
  rcases get?_set_cases there with rfl | before
  · exact holds.mono grows
  · exact (anchored other cell before).mono grows

end Heap

namespace Scopes

theorem Anchored.mono {scopes : Scopes} {before after : Heap} (anchored : scopes.Anchored before)
    (continues : before.Continues after) : scopes.Anchored after :=
  fun handle scope found binding member => (anchored handle scope found binding member).mono continues

theorem Anchored.declare {scopes after : Scopes} {heap : Heap} (anchored : scopes.Anchored heap) {handle : Nat}
    {name : String} {value stored : Value} {typeName : Option String} (given : value.Anchored heap)
    (declared : scopes.declare handle name value typeName = .ok (stored, after)) : after.Anchored heap := by
  obtain ⟨-, -, -, coerced, -⟩ := declare_eq_ok declared
  exact Hold.declare anchored ((Value.sound_coerce typeName given).1 stored coerced) declared

theorem Anchored.assign {scopes after : Scopes} {heap : Heap} (anchored : scopes.Anchored heap) {handle : Nat}
    {name : String} {value stored : Value} (given : value.Anchored heap)
    (assigned : scopes.assign handle name value = .ok (stored, after)) :
    after.Anchored heap ∧ stored.Anchored heap := by
  obtain ⟨-, -, found, -, -, -, coerced, -⟩ := assign_eq_ok assigned
  have kept := (Value.sound_coerce found.typeName given).1 stored coerced
  exact ⟨Hold.assign anchored kept assigned, kept⟩

end Scopes

namespace State

theorem Linked.recorded {state : State} (linked : state.Linked context) (options : Options) (line : Nat)
    (console : Option Text) (event : Option Event) :
    (state.recorded options line console event).Linked context where
  scopes := linked.scopes
  heap := linked.heap
  frames := linked.frames
  steps step member := by
    rcases Array.mem_push.mp member with before | this
    · exact linked.steps step before
    · rw [this]
      exact ⟨visible_of_hold linked.scopes options.mode, linked.heap⟩

theorem Linked.sameCore {before after : State} (linked : before.Linked context) (same : before.SameCore after) :
    after.Linked context where
  scopes := by
    rw [same.scopes, same.heap]
    exact linked.scopes
  heap := by
    rw [same.heap]
    exact linked.heap
  frames := by
    rw [same.frames]
    exact linked.frames
  steps := by
    rw [same.steps]
    exact linked.steps

/-- The heap may be exchanged for one that continues it. -/
theorem Linked.grown {state : State} (linked : state.Linked context) {heap : Heap}
    (continues : state.heap.Continues heap) (anchored : heap.Anchored context) :
    State.Linked context { state with heap } where
  scopes := linked.scopes.mono continues
  heap := anchored
  frames := linked.frames
  steps := linked.steps

theorem Linked.rescoped {state : State} (linked : state.Linked context) {scopes : Scopes}
    (anchored : scopes.Anchored state.heap) (current : Nat) :
    State.Linked context { state with scopes, current } where
  scopes := anchored
  heap := linked.heap
  frames := linked.frames
  steps := linked.steps

theorem Linked.written {state written : State} {slot : Slot} {value stored : Value} (linked : state.Linked context)
    (given : value.Anchored state.heap) (effect : slot.Written value state stored written) :
    written.Linked context ∧ state.heap.Continues written.heap ∧ stored.Anchored written.heap := by
  cases effect with
  | binding assigned =>
      obtain ⟨anchored, kept⟩ := linked.scopes.assign given assigned
      exact ⟨linked.rescoped anchored state.current, .refl _, kept⟩
  | @element handle position elementType values _ found coerced =>
      have kept := (Value.sound_coerce (some elementType) given).1 stored coerced
      have same : Cell.Continues (.array elementType values) (.array elementType (values.setIfInBounds position stored)) :=
        .array Array.size_setIfInBounds
      have continues := Heap.continues_set found same
      refine ⟨linked.grown continues (linked.heap.set found same ?_), continues, kept.mono continues⟩
      intro item member
      rcases Array.mem_or_eq_of_mem_setIfInBounds member with before | this
      · exact linked.heap handle _ found item before
      · rw [this]
        exact kept
  | @field handle name className fields found =>
      have more : Cell.Continues (.object className fields) (.object className (Pairs.put name value fields)) :=
        .object (Pairs.names_put name value fields)
      have continues := Heap.continues_set found more
      have before := linked.heap handle _ found
      refine ⟨linked.grown continues (linked.heap.set found more ⟨before.1, ?_⟩), continues, given.mono continues⟩
      intro field member
      rcases Pairs.mem_put member with this | old
      · rw [this]
        exact given
      · exact before.2 field old

end State

/-- A slot that can be read and written: its scope or its cell exists, and an element is within its array. -/
def Slot.Anchored (state : State) : Slot → Prop
  | .binding scope _ => scope < state.scopes.size
  | .element handle position =>
      ∃ elementType values, state.heap.get? handle = some (.array elementType values) ∧ position < values.size
  | .field handle _ => ∃ className fields, state.heap.get? handle = some (.object className fields)
  | .length _ => True

theorem Slot.Anchored.mono {slot : Slot} {before after : State} (anchored : slot.Anchored before)
    (continues : before.heap.Continues after.heap) (size : after.scopes.size = before.scopes.size) :
    slot.Anchored after := by
  cases slot with
  | binding scope name =>
      change scope < after.scopes.size
      rw [size]
      exact anchored
  | element handle position =>
      obtain ⟨elementType, values, found, inside⟩ := anchored
      obtain ⟨later, there, further⟩ := continues handle _ found
      cases further with
      | @array _ _ others length => exact ⟨elementType, others, there, by rw [length]; exact inside⟩
  | field handle name =>
      obtain ⟨className, fields, found⟩ := anchored
      obtain ⟨later, there, further⟩ := continues handle _ found
      cases further with
      | @object _ _ others names => exact ⟨className, others, there⟩
  | length size => trivial

def Expr.Decodes (expression : Expr) : Prop :=
  ∀ line raw, expression = .char line raw → ∃ char, (Text.decodedLiteral raw).toList = [char]

/-- The discipline of references: values, slots and states are anchored, and what lacks a record is no failure of a
run. -/
def Discipline.linking (context : Context) : Discipline context where
  node := Expr.Decodes
  settled _ := State.Linked context
  throughout := State.Linked context
  leads before after := before.heap.Continues after.heap
  value state value := value.Anchored state.heap
  slot state slot := slot.Anchored state
  tolerates := Failure.Benign

theorem Context.Pushes.declared {frame : Frame} (pushes : context.Pushes frame) :
    (context.program.class? frame.className).isSome := by
  cases pushes with
  | call method className scope declared =>
      obtain ⟨decl, name, found, -⟩ := declared
      rw [found]
      rfl
  | creation decl scope found =>
      rw [found]
      rfl
  | statics decl member =>
      unfold Program.class?
      exact List.find?_isSome.mpr ⟨decl, member, by simp⟩

theorem Cell.Made.anchored {cell : Cell} {heap : Heap} {element : String → Prop}
    (made : cell.Made context element (Value.Anchored heap)) : cell.Anchored context heap := by
  cases cell with
  | array elementType values => exact fun value member => (made.2 value member).1
  | object className fields =>
      obtain ⟨decl, found, admitted, -⟩ := made
      refine ⟨?_, fun field member => (admitted field member).1⟩
      rw [found]
      rfl

theorem Discipline.linking_stateLaws (context : Context) : (linking context).StateLaws where
  throughout_of_settled linked := linked
  leads_refl state := .refl state.heap
  leads_trans one two := one.trans two
  bookkept ready same := by
    refine ⟨ready.settled.sameCore same, ?_⟩
    change Heap.Continues _ _
    rw [same.heap]
    exact .refl _
  recorded line console event ready _ := ⟨ready.settled.recorded _ line console event, .refl _⟩
  declared ready given declared := ⟨ready.settled.rescoped (ready.settled.scopes.declare given declared) _, .refl _⟩
  stored line ready _ given _ ended := by
    obtain ⟨linked, continues, kept⟩ := ready.settled.written given (Slot.written_of_run ended)
    exact ⟨linked, linked.recorded _ line none none, continues, kept⟩
  allocated {room state cell after} line ready made same := by
    subst same
    have continues := state.heap.continues_allocate cell
    have linked := ready.settled.grown continues (ready.settled.heap.allocate (Cell.Made.anchored made))
    refine ⟨linked, linked.recorded _ line none (some .allocation), continues, ?_⟩
    change state.heap.size < (state.heap.allocate cell).size
    rw [Heap.size_allocate]
    exact Nat.lt_succ_self _
  opened ready _ := ⟨ready.settled.rescoped (Scopes.Hold.opened ready.settled.scopes _) _, .refl _⟩
  entered ready _ := ⟨ready.settled.rescoped ready.settled.scopes _, .refl _⟩
  left ready newest _ _ := ⟨ready.settled.rescoped (Scopes.Hold.released ready.settled.scopes newest) _, .refl _⟩
  pushed ready _ pushes := by
    have linked := ready.settled
    refine ⟨⟨linked.scopes, linked.heap, ?_, linked.steps⟩, .refl _⟩
    exact List.forall_mem_cons.mpr ⟨pushes.declared, linked.frames⟩
  popped ready stack := by
    have linked := ready.settled
    refine ⟨⟨linked.scopes, linked.heap, ?_, linked.steps⟩, .refl _⟩
    have declared := linked.frames
    rw [stack] at declared
    exact (List.forall_mem_cons.mp declared).2

end Stepwise
