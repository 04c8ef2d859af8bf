import Stepwise.Proofs.Heap
import Stepwise.Proofs.Nesting
import Stepwise.Proofs.Storage

/-!
# Slots, what they hold and the types they are declared with

A slot is found before the operand that is written to it is evaluated. Whatever the operand does, the slot remains one
that holds a value, and of the same declared type: an expression declares nothing, an array keeps its element type and
its length, and an object its fields. What is written to a slot is converted to this type and can then be read back.
-/

namespace Stepwise

set_option autoImplicit false

namespace Scope

theorem map_typeName_find? (scope : Scope) (name : String) :
    (scope.find? name).map Binding.typeName = (scope.shape.2.find? fun entry => entry.1 = name).map Prod.snd := by
  simp only [find?, shape, List.find?_map, Option.map_map]
  rfl

theorem find?_store (scope : Scope) (name key : String) (value : Value) :
    (scope.store name value).find? key =
      (scope.find? key).map fun binding => if binding.name = name then { binding with value } else binding := by
  have kept : ∀ binding : Binding,
      (if binding.name = name then { binding with value } else binding).name = binding.name := by
    intro binding
    split <;> rfl
  simp only [find?, store, List.find?_map]
  congr 2
  funext binding
  simp only [Function.comp_apply, kept]

theorem find?_store_self {scope : Scope} {name : String} {found : Binding} (there : scope.find? name = some found)
    (value : Value) : (scope.store name value).find? name = some { found with value } := by
  rw [find?_store, there, Option.map_some, if_pos (mem_of_find? there).2]

end Scope

namespace Scopes

theorem binding_of_resolve {scopes : Scopes} {handle owner : Nat} {name : String} {record : Scope} {found : Binding}
    (resolved : scopes.resolve handle name = .ok owner) (present : scopes.get? owner = some record)
    (there : record.find? name = some found) : scopes.binding handle name = .ok (owner, record, found) := by
  simp only [binding, resolved, present, there]

theorem binding_of_shapes {first second : Scopes} (size : first.size = second.size)
    (same : ∀ handle, first.shape? handle = second.shape? handle) {handle owner : Nat} {name : String} {record : Scope}
    {found : Binding} (bound : second.binding handle name = .ok (owner, record, found)) :
    ∃ other later, first.binding handle name = .ok (owner, other, later) ∧ later.typeName = found.typeName := by
  obtain ⟨resolved, present, there⟩ := binding_eq_ok bound
  have shapes := same owner
  rw [shape?, shape?, present] at shapes
  obtain ⟨other, otherPresent, equal⟩ := Option.map_eq_some_iff.mp shapes
  have types : (other.find? name).map Binding.typeName = some found.typeName := by
    rw [Scope.map_typeName_find?, equal, ← Scope.map_typeName_find?, there, Option.map_some]
  obtain ⟨later, laterThere, typed⟩ := Option.map_eq_some_iff.mp types
  refine ⟨other, later, binding_of_resolve ?_ otherPresent laterThere, typed⟩
  rw [resolve_congr size same, resolved]

theorem binding_assign {scopes after : Scopes} {handle : Nat} {name : String} {value stored : Value}
    (assigned : scopes.assign handle name value = .ok (stored, after)) :
    ∃ owner record found, scopes.binding handle name = .ok (owner, record, found) ∧
      value.coerce found.typeName = .ok stored ∧
      after.binding handle name = .ok (owner, record.store name stored, { found with value := stored }) := by
  have size := size_assign assigned
  have shapes := shape?_assign assigned
  obtain ⟨owner, record, found, resolved, present, there, coerced, rfl⟩ := assign_eq_ok assigned
  refine ⟨owner, record, found, binding_of_resolve resolved present there, coerced, ?_⟩
  refine binding_of_resolve ?_ ?_ (Scope.find?_store_self there stored)
  · rw [resolve_congr size shapes, resolved]
  · rw [get?_replaced, if_pos rfl, if_pos (lt_size_of_get? present)]

end Scopes

theorem Heap.get?_set_self {heap : Heap} {handle : Nat} {before : Cell} (found : heap.get? handle = some before)
    (cell : Cell) : (heap.set handle cell).get? handle = some cell := by
  rw [Heap.get?_set, if_pos rfl, if_pos (Heap.lt_size_of_get? found)]

namespace Slot

/-- The slot holds the value. -/
inductive Holds (state : State) : Slot → Value → Prop
  | binding {scope owner : Nat} {name : String} {record : Scope} {found : Binding}
      (bound : state.scopes.binding scope name = .ok (owner, record, found)) :
      Holds state (.binding scope name) found.value
  | element {handle position : Nat} {elementType : String} {values : Array Value} {value : Value}
      (found : state.heap.get? handle = some (.array elementType values)) (there : values[position]? = some value) :
      Holds state (.element handle position) value
  | field {handle : Nat} {name className : String} {fields : List (String × Value)} {value : Value}
      (found : state.heap.get? handle = some (.object className fields)) (there : fields.lookup name = some value) :
      Holds state (.field handle name) value
  | length (size : Nat) : Holds state (.length size) (.int size)

/-- The type that a value is converted to where the slot is. The fields of an object convert nothing. -/
def declaredType (state : State) : Slot → Option String
  | .binding scope name =>
      match state.scopes.binding scope name with
      | .ok (_, _, found) => found.typeName
      | .error _ => none
  | .element handle _ =>
      match state.heap.get? handle with
      | some (.array elementType _) => some elementType
      | _ => none
  | .field .. | .length _ => none

variable {slot : Slot} {state before after : State} {value stored : Value}

theorem read_eq_ok : slot.read.run state = .ok value after ↔ state = after ∧ slot.Holds state value := by
  constructor
  · intro ended
    refine ⟨((Machine.ReadsOnly.read slot).state_of_ok ended).symm, ?_⟩
    cases slot with
    | binding scope name =>
        simp only [read, Machine.run_bind, Machine.run_get, Scopes.lookup] at ended
        cases bound : state.scopes.binding scope name with
        | error failure =>
            rw [bound] at ended
            cases ended
        | ok found =>
            rw [bound] at ended
            cases ended
            exact .binding bound
    | element handle position =>
        simp only [read, Machine.run_bind, Machine.run_get] at ended
        split at ended
        · next elementType values found =>
            split at ended
            · next there =>
                cases ended
                exact .element found there
            · cases ended
        · cases ended
    | field handle name =>
        simp only [read, Machine.run_bind, Machine.run_get] at ended
        split at ended
        · next className fields found =>
            split at ended
            · next there =>
                cases ended
                exact .field found there
            · cases ended
        · cases ended
    | length size =>
        cases ended
        exact .length size
  · rintro ⟨rfl, holds⟩
    cases holds with
    | binding bound =>
        simp only [read, Machine.run_bind, Machine.run_get, Scopes.lookup, bound]
        rfl
    | element found there =>
        simp only [read, Machine.run_bind, Machine.run_get, found, there]
        rfl
    | field found there =>
        simp only [read, Machine.run_bind, Machine.run_get, found, there]
        rfl
    | length size => rfl

theorem Holds.fits (holds : slot.Holds state value) (typed : state.Typed) : value.Fits (slot.declaredType state) := by
  cases holds with
  | @binding scope owner name record found bound =>
      obtain ⟨-, present, there⟩ := Scopes.binding_eq_ok bound
      simp only [declaredType, bound]
      exact (typed.scopes owner record present).fits found (Scope.mem_of_find? there).1
  | element found there =>
      simp only [declaredType, found]
      exact typed.heap _ _ _ found value (Array.mem_of_getElem? there)
  | field | length => rfl

/-- A slot that held a value holds one later, and has the same declared type. -/
theorem Holds.later (holds : slot.Holds before value) (size : after.scopes.size = before.scopes.size)
    (shapes : ∀ handle, after.scopes.shape? handle = before.scopes.shape? handle)
    (continues : before.heap.Continues after.heap) :
    (∃ other, slot.Holds after other) ∧ slot.declaredType after = slot.declaredType before := by
  cases holds with
  | binding bound =>
      obtain ⟨other, later, boundLater, typed⟩ := Scopes.binding_of_shapes size shapes bound
      exact ⟨⟨_, .binding boundLater⟩, by simp only [declaredType, bound, boundLater, typed]⟩
  | @element handle position elementType values _ found there =>
      obtain ⟨later, foundLater, same⟩ := continues handle _ found
      cases same with
      | @array _ _ others length =>
          have inside : position < others.size := by
            rw [length]
            exact (Array.getElem?_eq_some_iff.mp there).1
          exact ⟨⟨others[position], .element foundLater (Array.getElem?_eq_getElem inside)⟩,
            by simp only [declaredType, found, foundLater]⟩
  | @field handle name className fields _ found there =>
      obtain ⟨later, foundLater, same⟩ := continues handle _ found
      cases same with
      | @object _ _ others names =>
          have named : name ∈ others.map Prod.fst := names.subset (List.mem_map_of_mem (Pairs.mem_of_lookup there))
          obtain ⟨pair, member, same⟩ := List.mem_map.mp named
          have present : (others.lookup name).isSome := List.lookup_isSome_iff.mpr ⟨pair, member, by simp [same]⟩
          obtain ⟨other, thereLater⟩ := Option.isSome_iff_exists.mp present
          exact ⟨⟨other, .field foundLater thereLater⟩, rfl⟩
  | length size => exact ⟨⟨_, .length size⟩, rfl⟩

theorem Written.coerced (written : slot.Written value before stored after) :
    value.coerce (slot.declaredType before) = .ok stored := by
  cases written with
  | binding assigned =>
      obtain ⟨owner, record, found, bound, coerced, -⟩ := Scopes.binding_assign assigned
      simp only [declaredType, bound]
      exact coerced
  | element found coerced =>
      simp only [declaredType, found]
      exact coerced
  | field found => rfl

theorem Written.holds (written : slot.Written value before stored after) (held : ∃ other, slot.Holds before other) :
    slot.Holds after stored := by
  obtain ⟨other, held⟩ := held
  cases written with
  | @binding _ _ _ scopes assigned =>
      obtain ⟨owner, record, found, -, -, bound⟩ := Scopes.binding_assign assigned
      exact @Holds.binding { before with scopes } _ _ _ _ _ bound
  | @element handle position elementType values _ found coerced =>
      have inside : position < values.size := by
        cases held with
        | element there inside =>
            rw [found] at there
            cases there
            exact (Array.getElem?_eq_some_iff.mp inside).1
      refine .element (Heap.get?_set_self found _) (Array.getElem?_setIfInBounds_self_of_lt inside)
  | field found => exact .field (Heap.get?_set_self found _) (Pairs.lookup_put_self _ _ _)

theorem Holds.recorded (holds : slot.Holds state value) (options : Options) (line : Nat) (console : Option Text)
    (event : Option Event) : slot.Holds (state.recorded options line console event) value := by
  cases holds with
  | binding bound => exact .binding bound
  | element found there => exact .element found there
  | field found there => exact .field found there
  | length size => exact .length size

end Slot

theorem State.invariant_continues (context : Context) (heap : Heap) :
    State.Invariant context (fun state => heap.Continues state.heap) fun _ => True where
  holds _ := trivial
  bookkept continues same := same.heap ▸ continues
  recorded _ _ _ continues _ := continues
  declared continues _ := continues
  stored _ continues effect := ⟨trivial, continues.trans effect.continues⟩
  allocated _ continues _ same := by
    subst same
    exact ⟨trivial, continues.trans (Heap.continues_allocate _ _)⟩
  opened _ continues := continues
  entered _ continues := continues
  left _ continues _ := continues
  framed _ continues := continues

namespace State.Invariant

variable {context : Context} {invariant throughout : State → Prop} {room : Nat} {expression : Expr} {before after : State}

theorem treats (kept : State.Invariant context invariant throughout) (room : Nat) (expression : Expr) :
    (Discipline.ofInvariant context invariant throughout).Treats room (Calls.within context room) expression :=
  have calls := Discipline.obeysCalls_within kept.laws (fun _ _ => trivial) (fun _ _ => trivial) room
  Discipline.treats_expression kept.laws calls expression fun _ _ => trivial

/-- An invariant still holds when an expression has been evaluated, and the scopes are as before but for the values in
them. -/
theorem evaluated (kept : State.Invariant context invariant throughout) (placed : before.Placed)
    (holds : invariant before) {value : Value}
    (ended : (expression.eval context (Calls.within context room)).run before = .ok value after) :
    after.Placed ∧ State.Restores none before after ∧ invariant after := by
  have obeys := (kept.treats room expression).evaluates before ⟨placed, holds⟩
  have follows := ((obeys fun _ _ _ => trivial).ending value after ended).1
  exact ⟨follows.ready.placed, follows.restores, follows.ready.settled⟩

theorem located (kept : State.Invariant context invariant throughout) (placed : before.Placed)
    (holds : invariant before) {slot : Slot}
    (ended : (expression.locate context (Calls.within context room)).run before = .ok slot after) :
    after.Placed ∧ State.Restores none before after ∧ invariant after := by
  have obeys := (kept.treats room expression).locates before ⟨placed, holds⟩
  have follows := ((obeys fun _ _ _ => trivial).ending slot after ended).1
  exact ⟨follows.ready.placed, follows.restores, follows.ready.settled⟩

end State.Invariant

end Stepwise
