import Stepwise.Proofs.Discipline.Run
import Stepwise.Proofs.Heap

/-!
# A trace shows every change of the heap

Whatever changes the heap records a step before anything else happens, so that wherever an evaluation begins or
completes, the heap is that of the last step. The heaps of consecutive steps therefore differ by one change at most:
a new cell, an element of an array, or a field of an object.
-/

namespace Stepwise

set_option autoImplicit false

/-- What the heap of a step can be, after that of the step before. -/
inductive Heap.Change (before : Heap) : Heap → Option Event → Prop
  | unchanged {event : Option Event} (ordinary : event ≠ some .allocation) : Change before before event
  | allocated (cell : Cell) : Change before (before.allocate cell) (some .allocation)
  | element {handle position : Nat} {elementType : String} {values : Array Value} {value : Value}
      (found : before.get? handle = some (.array elementType values)) (inside : position < values.size) :
      Change before (before.set handle (.array elementType (values.setIfInBounds position value))) none
  | field {handle : Nat} {name className : String} {fields : List (String × Value)} {value : Value}
      (found : before.get? handle = some (.object className fields)) :
      Change before (before.set handle (.object className (Pairs.put name value fields))) none

namespace Heap.Change

variable {before after : Heap} {event : Option Event}

theorem continues (change : before.Change after event) : before.Continues after := by
  cases change with
  | unchanged ordinary => exact .refl before
  | allocated cell => exact continues_allocate before cell
  | element found inside => exact continues_set found (.array Array.size_setIfInBounds)
  | field found => exact continues_set found (.object (Pairs.names_put _ _ _))

theorem size_lt_iff (change : before.Change after event) :
    before.size < after.size ↔ event = some .allocation := by
  cases change with
  | unchanged ordinary => simp [ordinary]
  | allocated cell => simp
  | element found inside => simp
  | field found => simp

end Heap.Change

/-- The heap that a step of a trace comes after: that of the step before, or the empty one. -/
def heapBefore (steps : List Step) : Nat → Heap
  | 0 => .empty
  | index + 1 => (steps[index]?.map Step.heap).getD .empty

def lastHeap (steps : List Step) : Heap :=
  heapBefore steps steps.length

/-- The steps show every change up to the heap as it is. -/
structure State.Shows (state : State) : Prop where
  last : lastHeap state.steps.toList = state.heap
  changes : ∀ (index : Nat) step, state.steps.toList[index]? = some step →
    (heapBefore state.steps.toList index).Change step.heap step.event

theorem heapBefore_succ {steps : List Step} {index : Nat} {step : Step} (found : steps[index]? = some step) :
    heapBefore steps (index + 1) = step.heap := by
  rw [heapBefore, found]
  rfl

theorem heapBefore_append {steps : List Step} {index : Nat} (inside : index ≤ steps.length) (more : List Step) :
    heapBefore (steps ++ more) index = heapBefore steps index := by
  cases index with
  | zero => rfl
  | succ index =>
      rw [heapBefore, heapBefore, List.getElem?_append_left inside]

theorem lastHeap_append_singleton (steps : List Step) (step : Step) : lastHeap (steps ++ [step]) = step.heap := by
  simp [lastHeap, heapBefore]

/-- One more step, after a change of the heap that no step has shown yet. -/
theorem State.Shows.recorded {state changed : State} (shows : state.Shows) (options : Options) (line : Nat)
    (console : Option Text) (event : Option Event) (same : changed.steps = state.steps)
    (change : state.heap.Change changed.heap event) : (changed.recorded options line console event).Shows := by
  have steps : (changed.recorded options line console event).steps.toList =
      state.steps.toList ++
        [{ line, bindings := changed.visible options.mode, heap := changed.heap, frames := changed.frames, console,
           event }] := by
    rw [State.recorded, Array.toList_push, same]
  refine ⟨?_, ?_⟩
  · rw [steps]
    exact lastHeap_append_singleton _ _
  · intro index step found
    rw [steps] at found ⊢
    rcases Nat.lt_or_ge index state.steps.toList.length with earlier | latest
    · rw [List.getElem?_append_left earlier] at found
      rw [heapBefore_append (Nat.le_of_lt earlier)]
      exact shows.changes index step found
    · rw [List.getElem?_append_right latest, List.getElem?_singleton] at found
      split at found
      · next first =>
          obtain rfl : index = state.steps.toList.length := by omega
          cases found
          rw [heapBefore_append (Nat.le_refl _)]
          have last := shows.last
          rw [lastHeap] at last
          rw [last]
          exact change
      · cases found

theorem State.Shows.of_same {before after : State} (shows : before.Shows) (heap : after.heap = before.heap)
    (steps : after.steps = before.steps) : after.Shows := by
  refine ⟨?_, ?_⟩
  · rw [steps, heap]
    exact shows.last
  · rw [steps]
    exact shows.changes

theorem Slot.Written.heap_change {slot : Slot} {value stored : Value} {before after : State}
    (written : slot.Written value before stored after) :
    before.heap.Change after.heap none ∧ after.steps = before.steps := by
  cases written with
  | binding assigned => exact ⟨.unchanged nofun, rfl⟩
  | @element handle position elementType values _ found coerced =>
      refine ⟨?_, rfl⟩
      by_cases inside : position < values.size
      · exact .element found inside
      · dsimp only
        rw [Array.setIfInBounds_eq_of_size_le (Nat.le_of_not_lt inside), Heap.set_eq_self found]
        exact .unchanged nofun
  | field found => exact ⟨.field found, rfl⟩

theorem State.invariant_shows (context : Context) : State.Invariant context State.Shows fun _ => True where
  holds _ := trivial
  bookkept shows same := shows.of_same same.heap same.steps
  recorded line console event shows ordinary := shows.recorded _ line console event rfl (.unchanged ordinary)
  declared shows _ := shows.of_same rfl rfl
  stored line shows written := by
    obtain ⟨change, same⟩ := written.heap_change
    exact ⟨trivial, shows.recorded _ line none none same change⟩
  allocated line shows _ same := by
    subst same
    exact ⟨trivial, shows.recorded _ line none (some .allocation) rfl (.allocated _)⟩
  opened _ shows := shows.of_same rfl rfl
  entered _ shows := shows.of_same rfl rfl
  left _ shows _ := shows.of_same rfl rfl
  framed _ shows := shows.of_same rfl rfl

theorem State.initial_shows : State.initial.Shows :=
  ⟨rfl, fun index step found => by simp [State.initial] at found⟩

/-- What the heap as data can become in one step: it stays, one cell is added under the next name, or one cell is
replaced by one that differs in an element, in the data of a field, or in having one more field at the end. -/
inductive ShownChange (heap : List (String × Json)) : List (String × Json) → Prop
  | unchanged : ShownChange heap heap
  | allocated (cell : Json) : ShownChange heap (heap ++ [(Value.heapId heap.length, cell)])
  | element {handle position : Nat} {elementType : String} {values : List Json} (value : Json)
      (found : heap[handle]? = some (Value.heapId handle, shownArray elementType values))
      (inside : position < values.length) :
      ShownChange heap (heap.set handle (Value.heapId handle, shownArray elementType (values.set position value)))
  | fieldReplaced {handle : Nat} {name className : String} {earlier later : List (String × Json)} {old : Json}
      (value : Json)
      (found : heap[handle]? = some (Value.heapId handle, shownObject className (earlier ++ (name, old) :: later))) :
      ShownChange heap
        (heap.set handle (Value.heapId handle, shownObject className (earlier ++ (name, value) :: later)))
  | fieldAdded {handle : Nat} {name className : String} {fields : List (String × Json)} (value : Json)
      (found : heap[handle]? = some (Value.heapId handle, shownObject className fields))
      (fresh : name ∉ fields.map Prod.fst) :
      ShownChange heap (heap.set handle (Value.heapId handle, shownObject className (fields ++ [(name, value)])))

/-- The data of a cell continues other data: same kind, element type and length, or same class and more fields. -/
inductive ShownContinues : Json → Json → Prop
  | array (elementType : String) {values others : List Json} (length : others.length = values.length) :
      ShownContinues (shownArray elementType values) (shownArray elementType others)
  | object (className : String) {fields others : List (String × Json)}
      (names : fields.map Prod.fst <+: others.map Prod.fst) :
      ShownContinues (shownObject className fields) (shownObject className others)

theorem Cell.Continues.shown {before after : Cell} (continues : before.Continues after) :
    ShownContinues before.shown after.shown := by
  cases continues with
  | array length => exact .array _ (by simpa using length)
  | object names => exact .object _ (by simpa [Function.comp_def] using names)

theorem Heap.Change.shown {before after : Heap} {event : Option Event} (change : before.Change after event) :
    ShownChange before.shown after.shown := by
  cases change with
  | unchanged ordinary => exact .unchanged
  | allocated cell =>
      rw [shown_allocate, ← length_shown]
      exact .allocated cell.shown
  | @element handle position elementType values value found inside =>
      have there : before.shown[handle]? =
          some (Value.heapId handle, shownArray elementType (values.toList.map Value.shown)) := by
        rw [getElem?_shown, found]
        rfl
      have result := ShownChange.element value.shown there (by simpa using inside)
      rw [shown_set (lt_size_of_get? found)]
      simpa [Cell.shown, shownArray] using result
  | @field handle name className fields value found =>
      have there : before.shown[handle]? = some (Value.heapId handle,
          shownObject className (fields.map fun field => (field.1, field.2.shown))) := by
        rw [getElem?_shown, found]
        rfl
      rw [shown_set (lt_size_of_get? found)]
      rcases Pairs.put_cases name value fields with ⟨earlier, old, later, split, put⟩ | ⟨fresh, put⟩
      · rw [split, List.map_append, List.map_cons] at there
        have result := ShownChange.fieldReplaced value.shown there
        rw [put]
        simpa [Cell.shown, shownObject] using result
      · have result := ShownChange.fieldAdded value.shown there (by simpa [Function.comp_def] using fresh)
        rw [put]
        simpa [Cell.shown, shownObject] using result

theorem continues_heapBefore {steps : List Step} {first second : Nat}
    (changes : ∀ (index : Nat) step, steps[index]? = some step → (heapBefore steps index).Change step.heap step.event)
    (order : first ≤ second) (inside : second ≤ steps.length) :
    (heapBefore steps first).Continues (heapBefore steps second) := by
  induction second with
  | zero =>
      obtain rfl : first = 0 := by omega
      exact .refl _
  | succ second hypothesis =>
      rcases Nat.lt_or_ge second first with last | earlier
      · obtain rfl : first = second + 1 := by omega
        exact .refl _
      · have found : steps[second]? = some steps[second] := List.getElem?_eq_getElem inside
        rw [heapBefore_succ found]
        exact (hypothesis earlier (by omega)).trans (changes second _ found).continues

theorem Program.trace_eq_ok {program : Program} {options : Options} {steps : List Step}
    (traced : program.trace options = .ok steps) :
    ∃ final, ({ options, program } : Context).execute.run State.initial = .ok () final ∧
      steps = final.steps.toList := by
  unfold Program.trace at traced
  split at traced
  · next final ended =>
      cases traced
      exact ⟨final, ended, rfl⟩
  · cases traced

/-- Between the heaps of consecutive steps there is one change at most, and the heap has grown exactly if the step is
marked as an allocation. So over a whole trace cells are named in order, none disappears, each continues as what it
is, and the last step shows the heap in which the run ends. -/
theorem trace_shows_every_heap_change (program : Program) (options : Options) (steps : List Step)
    (traced : program.trace options = .ok steps) :
    (∀ (index : Nat) step, steps[index]? = some step →
      ShownChange (heapBefore steps index).shown step.heap.shown ∧
        ((heapBefore steps index).shown.length < step.heap.shown.length ↔ step.event = some .allocation)) ∧
    (∀ step ∈ steps, step.heap.shown.map Prod.fst = (List.range step.heap.shown.length).map Value.heapId) ∧
    (∀ (first second : Nat) earlier later, first ≤ second → steps[first]? = some earlier →
      steps[second]? = some later → ∀ (handle : Nat) id cell, earlier.heap.shown[handle]? = some (id, cell) →
        ∃ other, later.heap.shown[handle]? = some (id, other) ∧ ShownContinues cell other) ∧
    ∃ final, ({ options, program } : Context).execute.run State.initial = .ok () final ∧
      (lastHeap steps).shown = final.heap.shown := by
  obtain ⟨final, ended, rfl⟩ := Program.trace_eq_ok traced
  have shows := ((((State.invariant_shows _).runs State.initial_shows).ending _ _ ended).ready).settled
  refine ⟨?_, ?_, ?_, ?_⟩
  · intro index step found
    have change := shows.changes index step found
    rw [Heap.length_shown, Heap.length_shown]
    exact ⟨change.shown, change.size_lt_iff⟩
  · intro step _
    rw [Heap.length_shown]
    exact step.heap.names_shown
  · intro first second earlier later order foundFirst foundSecond handle id cell there
    have inside : second < final.steps.toList.length := (List.getElem?_eq_some_iff.mp foundSecond).1
    have continues := continues_heapBefore shows.changes (Nat.succ_le_succ order) inside
    rw [heapBefore_succ foundFirst, heapBefore_succ foundSecond] at continues
    rw [Heap.getElem?_shown] at there ⊢
    obtain ⟨present, found, same⟩ := Option.map_eq_some_iff.mp there
    obtain ⟨other, foundLater, further⟩ := continues handle present found
    cases same
    rw [foundLater]
    exact ⟨other.shown, rfl, further.shown⟩
  · exact ⟨final, ended, by rw [shows.last]⟩

/-- A program that makes an array and an object, and writes an element and a new field. -/
def Program.ofWrites : Program where
  classes :=
    [{ line := 1, name := "Main",
       body :=
         [.method
           { line := 2, returnType := "void", name := "main", params := [],
             body :=
               [.declare
                   { line := 3, typeName := "int[]", name := "values", value := some (.arrayOf 3 "int" [.int 3 1]),
                     isStatic := false },
                 .evaluate 4 (.assign 4 (.index 4 (.name 4 "values") (.int 4 0)) (.int 4 2)),
                 .evaluate 5 (.assign 5 (.field 5 (.create 5 "Main") 5 "size") (.int 5 1))] }] }]

theorem writes_are_shown :
    ∃ steps, Program.ofWrites.trace { maxSteps := 10, mode := .local_ } = .ok steps ∧
      steps.map Step.event = [some .allocation, none, none, some .allocation, none] ∧
      (∀ (index : Nat) step, steps[index]? = some step →
        ShownChange (heapBefore steps index).shown step.heap.shown) := by
  have events : (Program.ofWrites.trace { maxSteps := 10, mode := .local_ }).toOption.map (·.map Step.event) =
      some [some .allocation, none, none, some .allocation, none] := by decide +kernel
  cases traced : Program.ofWrites.trace { maxSteps := 10, mode := .local_ } with
  | error failure =>
      rw [traced] at events
      cases events
  | ok steps =>
      rw [traced] at events
      have shown := (trace_shows_every_heap_change _ _ steps traced).1
      exact ⟨steps, rfl, Option.some.inj events, fun index step found => (shown index step found).1⟩

end Stepwise
