import Stepwise.Step.Change
import Stepwise.Proofs.Agreement
import Stepwise.Proofs.HeapTrace
import Stepwise.Proofs.Linkage.Run

/-!
# The changes from step to step

The comparison of a step with the one before lists the cells that are new or hold other data, and the variables that
are new, hold other data, or refer to such a cell. Nothing is missed: what is not listed was there before and agrees
with what is there now, the cell of a reference included, and the listed cells are all it takes to bring the heap of
the step before up to date.

That the comparison works at all rests on what a run keeps. Cells have names of their own and never disappear, no two
fields of an object share a name, a reference leads to a cell that the step shows, and one cell at most changes from
step to step.
-/

namespace Stepwise

set_option autoImplicit false

structure State.KeepsFieldsApart (state : State) : Prop where
  heap : state.heap.Hold Cell.Distinct
  steps : ∀ step ∈ state.steps, step.heap.Hold Cell.Distinct

theorem Cell.Made.distinct {context : Context} {element : String → Prop} {admitted : Value → Prop} {cell : Cell}
    (made : cell.Made context element admitted) : cell.Distinct := by
  cases cell with
  | array elementType values => trivial
  | object className fields =>
      obtain ⟨decl, -, -, -, distinct⟩ := made
      exact distinct

namespace State.KeepsFieldsApart

variable {state : State}

theorem recorded (apart : state.KeepsFieldsApart) (options : Options) (line : Nat) (console : Option Text)
    (event : Option Event) : (state.recorded options line console event).KeepsFieldsApart where
  heap := apart.heap
  steps step member := by
    rcases Array.mem_push.mp member with before | rfl
    · exact apart.steps step before
    · exact apart.heap

theorem written {slot : Slot} {value stored : Value} {written : State} (apart : state.KeepsFieldsApart)
    (effect : slot.Written value state stored written) : written.KeepsFieldsApart := by
  cases effect with
  | binding assigned => exact ⟨apart.heap, apart.steps⟩
  | @element handle position elementType values _ found coerced =>
      exact ⟨apart.heap.set handle trivial, apart.steps⟩
  | @field handle name className fields found =>
      exact ⟨apart.heap.set handle (Pairs.nodup_put (apart.heap handle _ found) name value), apart.steps⟩

theorem allocated {context : Context} {element : String → Prop} {admitted : Value → Prop} {cell : Cell}
    (apart : state.KeepsFieldsApart) (made : cell.Made context element admitted) :
    State.KeepsFieldsApart { state with heap := state.heap.allocate cell } :=
  ⟨apart.heap.allocate (Cell.Made.distinct made), apart.steps⟩

end State.KeepsFieldsApart

theorem State.invariant_fieldsApart (context : Context) :
    State.Invariant context State.KeepsFieldsApart fun _ => True where
  holds _ := trivial
  bookkept apart same := ⟨same.heap ▸ apart.heap, same.steps ▸ apart.steps⟩
  recorded line console event apart _ := apart.recorded _ line console event
  declared apart _ := ⟨apart.heap, apart.steps⟩
  stored line apart effect := ⟨trivial, (apart.written effect).recorded _ line none none⟩
  allocated line apart made same := by
    subst same
    exact ⟨trivial, (apart.allocated made).recorded _ line none (some .allocation)⟩
  opened _ apart := ⟨apart.heap, apart.steps⟩
  entered _ apart := ⟨apart.heap, apart.steps⟩
  left _ apart _ := ⟨apart.heap, apart.steps⟩
  framed _ apart := ⟨apart.heap, apart.steps⟩

theorem State.initial_fieldsApart : State.initial.KeepsFieldsApart :=
  ⟨Heap.hold_empty, fun _ impossible => absurd impossible (Array.not_mem_empty _)⟩

/-- A heap goes on from another: the cells of the other come first, all have names of their own, and each agrees with
itself and not with null. -/
structure GoesOn (before after : List (String × Json)) : Prop where
  names : before.map Prod.fst <+: after.map Prod.fst
  distinct : (after.map Prod.fst).Nodup
  present : ∀ entry ∈ after, Json.null.agrees entry.2 = false
  reflexive : ∀ entry ∈ after, entry.2.agrees entry.2 = true

theorem Heap.Continues.goesOn {before after : Heap} (continues : before.Continues after)
    (distinct : after.Hold Cell.Distinct) : GoesOn before.shown after.shown where
  names := by
    obtain ⟨more, whole⟩ := Nat.exists_eq_add_of_le continues.size_le
    rw [names_shown, names_shown, whole, List.range_add, List.map_append]
    exact List.prefix_append _ _
  distinct := after.nodup_names_shown
  present entry member := by
    obtain ⟨handle, cell, -, same⟩ := get?_of_mem_shown member
    rw [← same]
    exact cell.not_null_agrees_shown
  reflexive entry member := by
    obtain ⟨handle, cell, found, same⟩ := get?_of_mem_shown member
    rw [← same]
    exact (distinct handle cell found).agrees_shown

theorem Heap.Change.one_cell {before after : Heap} {event : Option Event} (change : before.Change after event) :
    ∃ handle, ∀ other, other ≠ handle → after.get? other = before.get? other := by
  cases change with
  | unchanged ordinary => exact ⟨0, fun other _ => rfl⟩
  | allocated cell =>
      refine ⟨before.size, fun other apart => ?_⟩
      rw [get?_allocate, if_neg apart]
  | @element handle position elementType values value found inside =>
      refine ⟨handle, fun other apart => ?_⟩
      rw [get?_set, if_neg apart.symm]
  | @field handle name className fields value found =>
      refine ⟨handle, fun other apart => ?_⟩
      rw [get?_set, if_neg apart.symm]

namespace StepView

variable {step before : StepView}

theorem mem_changedCells_iff {id : String} : id ∈ step.changedCells (some before) ↔
    ∃ cell, (id, cell) ∈ step.heap ∧ (before.cell id).agrees cell = false := by
  simp [changedCells]

/-- The listed cells are those that are new and those that differ. -/
theorem mem_changedCells (goes : GoesOn before.heap step.heap) {id : String} :
    id ∈ step.changedCells (some before) ↔ ∃ cell, (id, cell) ∈ step.heap ∧
      (id ∉ before.heap.map Prod.fst ∨ ∃ old, before.heap.lookup id = some old ∧ old.agrees cell = false) := by
  rw [mem_changedCells_iff]
  refine exists_congr fun cell => and_congr_right fun member => ?_
  rw [← Pairs.lookup_eq_none_iff_not_mem, StepView.cell]
  cases before.heap.lookup id with
  | none => simpa using goes.present _ member
  | some old => simp

theorem changedCells_sublist : (step.changedCells (some before)).Sublist (step.heap.map Prod.fst) :=
  List.filter_sublist.map Prod.fst

theorem agrees_of_not_mem_changedCells (goes : GoesOn before.heap step.heap) {id : String} {cell : Json}
    (member : (id, cell) ∈ step.heap) (unlisted : id ∉ step.changedCells (some before)) :
    ∃ old, before.heap.lookup id = some old ∧ old.agrees cell = true := by
  have agrees : (before.cell id).agrees cell = true := by
    by_contra differs
    exact unlisted (mem_changedCells_iff.mpr ⟨cell, member, Bool.eq_false_iff.mpr differs⟩)
  rw [StepView.cell] at agrees
  cases found : before.heap.lookup id with
  | some old =>
      rw [found] at agrees
      exact ⟨old, rfl, agrees⟩
  | none =>
      rw [found] at agrees
      exact absurd agrees (Bool.eq_false_iff.mp (goes.present _ member))

/-- The heap with the cells of the step in place of its own, under the names listed. -/
def overwrite (step : StepView) (names : List String) (heap : List (String × Json)) : List (String × Json) :=
  names.foldl (fun heap name => Pairs.put name (step.cell name) heap) heap

theorem lookup_overwrite (names : List String) (heap : List (String × Json)) (key : String) :
    (step.overwrite names heap).lookup key = if key ∈ names then some (step.cell key) else heap.lookup key := by
  induction names generalizing heap with
  | nil => simp [overwrite]
  | cons name names ih =>
      rw [overwrite, List.foldl_cons, ← overwrite, ih]
      by_cases same : key = name
      · subst same
        simp [Pairs.lookup_put_self]
      · simp [same, Pairs.lookup_put_of_ne]

theorem names_overwrite {names : List String} (distinct : names.Nodup) (heap : List (String × Json)) :
    (step.overwrite names heap).map Prod.fst =
      heap.map Prod.fst ++ names.filter fun name => name ∉ heap.map Prod.fst := by
  induction names generalizing heap with
  | nil => simp [overwrite]
  | cons name names ih =>
      obtain ⟨apart, others⟩ := List.nodup_cons.mp distinct
      rw [overwrite, List.foldl_cons, ← overwrite, ih others]
      rcases Pairs.put_cases name (step.cell name) heap with ⟨earlier, old, later, split, put⟩ | ⟨fresh, put⟩
      · have same : (Pairs.put name (step.cell name) heap).map Prod.fst = heap.map Prod.fst := by
          rw [put, split]
          simp
        rw [same, List.filter_cons_of_neg (by simp [split])]
      · have further : (names.filter fun other => other ∉ heap.map Prod.fst ++ [name]) =
            names.filter fun other => other ∉ heap.map Prod.fst := by
          refine List.filter_congr fun other member => ?_
          have distinct : other ≠ name := fun same => apart (same ▸ member)
          simp [distinct]
        rw [put, List.map_append, List.map_singleton, further, List.filter_cons_of_pos (by simpa using fresh),
          List.append_assoc, List.singleton_append]

theorem new_changedCells (goes : GoesOn before.heap step.heap) :
    (step.changedCells (some before)).filter (fun name => name ∉ before.heap.map Prod.fst) =
      (step.heap.map Prod.fst).filter fun name => name ∉ before.heap.map Prod.fst := by
  rw [changedCells, List.filter_map, List.filter_map, List.filter_filter]
  refine congrArg _ (List.filter_congr fun entry member => ?_)
  by_cases old : entry.1 ∈ before.heap.map Prod.fst
  · simp [old]
  · have absent : before.cell entry.1 = .null := by
      rw [StepView.cell, Pairs.lookup_eq_none_iff_not_mem.mpr old]
      rfl
    simp [absent, goes.present entry member]

theorem names_overwrite_changedCells (goes : GoesOn before.heap step.heap) :
    (step.overwrite (step.changedCells (some before)) before.heap).map Prod.fst = step.heap.map Prod.fst := by
  obtain ⟨more, whole⟩ := goes.names
  have apart := goes.distinct
  rw [← whole, List.nodup_append] at apart
  rw [names_overwrite (changedCells_sublist.nodup goes.distinct), new_changedCells goes, ← whole, List.filter_append,
    List.filter_eq_nil_iff.mpr (by simp), List.nil_append, List.filter_eq_self.mpr ?_]
  intro name member
  exact decide_eq_true fun old => apart.2.2 name old name member rfl

theorem agrees_overwrite_changedCells (goes : GoesOn before.heap step.heap) :
    (Json.object (step.overwrite (step.changedCells (some before)) before.heap)).agrees (.object step.heap) = true := by
  have names := names_overwrite_changedCells goes
  refine Json.agrees_object_iff.mpr ⟨?_, ?_⟩
  · simpa using congrArg List.length names
  · rintro ⟨name, data⟩ member
    have inside : name ∈ step.heap.map Prod.fst := names ▸ List.mem_map_of_mem member
    obtain ⟨⟨_, cell⟩, present, rfl⟩ := List.mem_map.mp inside
    have found := (Pairs.lookup_eq_some_iff_mem goes.distinct).mpr present
    refine ⟨cell, found, ?_⟩
    have reached := (Pairs.lookup_eq_some_iff_mem (names ▸ goes.distinct)).mpr member
    rw [lookup_overwrite] at reached
    split at reached
    · rw [StepView.cell, found] at reached
      cases reached
      exact goes.reflexive _ present
    · next unlisted =>
        obtain ⟨old, there, agrees⟩ := agrees_of_not_mem_changedCells goes present unlisted
        rw [there] at reached
        cases reached
        exact agrees

theorem of_not_mem_changedVariables {name : String} {data : Json} (member : (name, data) ∈ step.bindings)
    (unlisted : name ∉ step.changedVariables (some before)) :
    (∃ old, before.bindings.lookup name = some old ∧ old.agrees data = true) ∧
      refersTo (step.changedCells (some before)) data = false := by
  have kept : ¬(differs before.bindings name data || refersTo (step.changedCells (some before)) data) = true :=
    fun listed => unlisted (List.mem_map_of_mem (List.mem_filter.mpr ⟨member, listed⟩))
  rw [Bool.not_eq_true, Bool.or_eq_false_iff, differs] at kept
  refine ⟨?_, kept.2⟩
  cases found : before.bindings.lookup name with
  | none =>
      rw [found] at kept
      cases kept.1
  | some old =>
      rw [found] at kept
      exact ⟨old, rfl, by simpa using kept.1⟩

/-- What the comparison of a step with the one before finds out. -/
structure Detects (step before : StepView) : Prop where
  /-- The listed cells are in the order of the heap. -/
  ordered : (step.changedCells (some before)).Sublist (step.heap.map Prod.fst)
  distinct : (step.changedCells (some before)).Nodup
  cells : ∀ id, id ∈ step.changedCells (some before) ↔ ∃ cell, (id, cell) ∈ step.heap ∧
    (id ∉ before.heap.map Prod.fst ∨ ∃ old, before.heap.lookup id = some old ∧ old.agrees cell = false)
  single : (step.changedCells (some before)).length ≤ 1
  /-- The heap before is brought up to date by the listed cells. -/
  namesUpdated : (step.overwrite (step.changedCells (some before)) before.heap).map Prod.fst = step.heap.map Prod.fst
  updated :
    (Json.object (step.overwrite (step.changedCells (some before)) before.heap)).agrees (.object step.heap) = true
  variablesKept : ∀ name data, (name, data) ∈ step.bindings →
    name ∉ step.changedVariables (some before) →
      ∃ old, before.bindings.lookup name = some old ∧ old.agrees data = true
  /-- The cell of a reference is there and unchanged, too. -/
  targetsKept : ∀ name id, (name, shownReference id) ∈ step.bindings →
    name ∉ step.changedVariables (some before) →
      ∃ cell old, (id, cell) ∈ step.heap ∧ before.heap.lookup id = some old ∧ old.agrees cell = true

theorem length_rowsFrom (number : Nat) (previous : Option StepView) (steps : List StepView) :
    (rowsFrom number previous steps).length = steps.length := by
  induction steps generalizing number previous with
  | nil => rfl
  | cons step steps ih => rw [rowsFrom, List.length_cons, ih, List.length_cons]

/-- Each row compares a step with the one before it in the list, the first one with what went before. -/
theorem getElem?_rowsFrom (number : Nat) (previous : Option StepView) (steps : List StepView) (index : Nat) :
    (rowsFrom number previous steps)[index]? =
      steps[index]?.map (row (number + index) ((previous :: steps.map some)[index]?.join)) := by
  induction steps generalizing number previous index with
  | nil => rfl
  | cons step steps ih =>
      rw [rowsFrom]
      cases index with
      | zero => rfl
      | succ index =>
          rw [List.getElem?_cons_succ, List.getElem?_cons_succ, ih, List.map_cons, List.getElem?_cons_succ,
            Nat.add_right_comm, Nat.add_assoc]

end StepView

theorem Heap.Change.single_changedCell {before after : Step} {event : Option Event}
    (change : before.heap.Change after.heap event) (goes : GoesOn before.heap.shown after.heap.shown) :
    (after.view.changedCells (some before.view)).length ≤ 1 := by
  obtain ⟨changed, others⟩ := change.one_cell
  have distinct : (after.view.changedCells (some before.view)).Nodup :=
    StepView.changedCells_sublist.nodup goes.distinct
  suffices all : ∀ id ∈ after.view.changedCells (some before.view), id = Value.heapId changed by
    rw [List.eq_replicate_of_mem all] at distinct
    exact List.nodup_replicate.mp distinct
  intro id listed
  obtain ⟨data, member, differs⟩ := StepView.mem_changedCells_iff.mp listed
  obtain ⟨handle, inside, rfl⟩ := List.mem_map.mp (after.heap.names_shown ▸ List.mem_map_of_mem member)
  by_contra apart
  have same := others handle fun equal => apart (congrArg Value.heapId equal)
  have found : before.heap.shown.lookup (Value.heapId handle) = some data := by
    rw [lookup_shown, ← same, ← lookup_shown]
    exact (Pairs.lookup_eq_some_iff_mem goes.distinct).mpr member
  rw [StepView.cell, Step.view, found] at differs
  exact Bool.eq_false_iff.mp differs (goes.reflexive _ member)

theorem Step.detects {context : Context} {before after : Step} {event : Option Event}
    (change : before.heap.Change after.heap event) (distinct : after.heap.Hold Cell.Distinct)
    (anchored : after.Anchored context) : after.view.Detects before.view := by
  have goes : GoesOn before.view.heap after.view.heap := change.continues.goesOn distinct
  refine ⟨StepView.changedCells_sublist, StepView.changedCells_sublist.nodup goes.distinct,
    fun id => StepView.mem_changedCells goes, change.single_changedCell goes,
    StepView.names_overwrite_changedCells goes, StepView.agrees_overwrite_changedCells goes, ?_, ?_⟩
  · exact fun name data member unlisted => (StepView.of_not_mem_changedVariables member unlisted).1
  · intro name id member unlisted
    have refers := (StepView.of_not_mem_changedVariables member unlisted).2
    obtain ⟨⟨target, cell⟩, present, rfl⟩ := List.mem_map.mp (anchored.names (.ofVariable name member))
    have kept : target ∉ after.view.changedCells (some before.view) := by
      intro listed
      simp only [StepView.refersTo, shownReference, Json.field?, List.lookup_cons_self, List.any_eq_false,
        decide_eq_true_eq] at refers
      exact refers target listed rfl
    obtain ⟨old, there, agrees⟩ := StepView.agrees_of_not_mem_changedCells goes present kept
    exact ⟨cell, old, present, there, agrees⟩

/-- In a trace of a compiled source, the comparison of a step with the one before misses nothing. The rows that sum up
the trace are one for each step, and show what the comparison finds; there is nothing to compare the first step with. -/
theorem changes_are_detected {source : String} {compiled : Compiled} {options : Options} {steps : List Step}
    (accepted : compile source = .ok compiled) (traced : compiled.program.trace options = .ok steps) :
    (∀ (index : Nat) earlier later, steps[index]? = some earlier → steps[index + 1]? = some later →
      later.view.Detects earlier.view ∧
        (StepView.rows (steps.map Step.view))[index + 1]? =
          some [Text.ofString (toString (index + 1)), Text.ofString (toString later.line),
            Text.ofString ((later.event.map Event.label).getD ""),
            Text.ofString (" ".intercalate (later.view.changedVariables (some earlier.view))),
            Text.ofString (" ".intercalate (later.view.changedCells (some earlier.view))), consoleLine later.console]) ∧
    (∀ first, steps[0]? = some first →
      (StepView.rows (steps.map Step.view))[0]? =
        some [Text.ofString (toString 0), Text.ofString (toString first.line),
          Text.ofString ((first.event.map Event.label).getD ""), [], [], consoleLine first.console]) ∧
    (StepView.rows (steps.map Step.view)).length = steps.length := by
  obtain ⟨final, ended, rfl⟩ := Program.trace_eq_ok traced
  have compiles : Context.Compiles { options, program := compiled.program } source := ⟨compiled, accepted, rfl⟩
  have linked := ((compiles.runs.ending _ _ ended).ready).settled
  have shows := ((((State.invariant_shows _).runs State.initial_shows).ending _ _ ended).ready).settled
  have apart := ((((State.invariant_fieldsApart _).runs State.initial_fieldsApart).ending _ _ ended).ready).settled
  refine ⟨?_, ?_, ?_⟩
  · intro index earlier later foundEarlier foundLater
    have change := shows.changes (index + 1) later foundLater
    rw [heapBefore_succ foundEarlier] at change
    have member : later ∈ final.steps := Array.mem_toList_iff.mp (List.mem_of_getElem? foundLater)
    refine ⟨Step.detects change (apart.steps later member) (linked.steps later member), ?_⟩
    rw [StepView.rows, StepView.getElem?_rowsFrom]
    simp [foundEarlier, foundLater, StepView.row, Step.view]
  · intro first found
    rw [StepView.rows, StepView.getElem?_rowsFrom, List.getElem?_map, found]
    rfl
  · rw [StepView.rows, StepView.length_rowsFrom, List.length_map]

/-- A source that writes through the second of two names for an array. -/
def aliasedWrite : String :=
  "class Main \x7b void main() \x7b int[] values = new int[2]; int[] others = values; others[0] = 1; \x7d \x7d"

theorem aliased_write_is_detected : ∃ compiled steps earlier later, compile aliasedWrite = .ok compiled ∧
    compiled.program.trace { maxSteps := 10, mode := .local_ } = .ok steps ∧
    steps[2]? = some earlier ∧ steps[3]? = some later ∧ later.view.Detects earlier.view ∧
    later.view.changedVariables (some earlier.view) = ["values", "others"] ∧
    later.view.changedCells (some earlier.view) = ["heap_0"] := by
  have listed : ((compile aliasedWrite).toOption.bind fun compiled =>
      (compiled.program.trace { maxSteps := 10, mode := .local_ }).toOption.bind fun steps =>
        steps[2]?.bind fun earlier => steps[3]?.map fun later =>
          (later.view.changedVariables (some earlier.view), later.view.changedCells (some earlier.view))) =
      some (["values", "others"], ["heap_0"]) := by
    rw [compile, scan, toList_of_written aliasedWrite rfl]
    decide +kernel
  cases accepted : compile aliasedWrite with
  | error rejection =>
      rw [accepted] at listed
      cases listed
  | ok compiled =>
      cases traced : compiled.program.trace { maxSteps := 10, mode := .local_ } with
      | error failure =>
          simp only [accepted, Except.toOption, Option.bind_some, traced] at listed
          cases listed
      | ok steps =>
          simp only [accepted, Except.toOption, Option.bind_some, traced, Option.bind_eq_some_iff,
            Option.map_eq_some_iff, Prod.mk.injEq] at listed
          obtain ⟨earlier, foundEarlier, later, foundLater, named, cells⟩ := listed
          have detects := ((changes_are_detected accepted traced).1 2 earlier later foundEarlier foundLater).1
          exact ⟨compiled, steps, earlier, later, rfl, traced, foundEarlier, foundLater, detects, named, cells⟩

end Stepwise
