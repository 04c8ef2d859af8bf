import Mathlib.Data.List.Nodup
import Stepwise.Proofs.Discipline.Run

/-!
# What is stored under a type fits it

Values come to be stored in many ways: by declarations with and without a value, array literals and new arrays, plain
and compound assignments, counting up and down, and the binding of parameters. All of them convert to the declared
type at the place itself, so that in every state of a run conversion would leave every stored value alone.

A scope binds a name once. This matters here: a value is converted to the type of the first binding of its name and
would be stored under every one.
-/

namespace Stepwise

set_option autoImplicit false

/-- Each name is bound once, to a value that fits its type. -/
structure Scope.Typed (scope : Scope) : Prop where
  distinct : (scope.bindings.map Binding.name).Nodup
  fits : ∀ binding ∈ scope.bindings, binding.value.Fits binding.typeName

def Scopes.Typed (scopes : Scopes) : Prop :=
  ∀ handle scope, scopes.get? handle = some scope → scope.Typed

/-- The elements of every array fit its element type. -/
def Heap.Typed (heap : Heap) : Prop :=
  ∀ handle elementType values, heap.get? handle = some (.array elementType values) →
    ∀ value ∈ values, value.Fits (some elementType)

structure State.Typed (state : State) : Prop where
  scopes : state.scopes.Typed
  heap : state.heap.Typed

namespace Scope

theorem typed_empty {parent : Option Nat} : Scope.Typed { parent, bindings := [] } :=
  ⟨List.nodup_nil, nofun⟩

theorem Typed.store {scope : Scope} (typed : scope.Typed) {name : String} {found : Binding} {value stored : Value}
    (there : scope.find? name = some found) (coerced : value.coerce found.typeName = .ok stored) :
    (scope.store name stored).Typed where
  distinct := by
    have names : (scope.store name stored).bindings.map Binding.name = scope.bindings.map Binding.name := by
      simp only [Scope.store, List.map_map]
      refine List.map_congr_left fun binding _ => ?_
      simp only [Function.comp_apply]
      split <;> rfl
    rw [names]
    exact typed.distinct
  fits binding member := by
    rcases mem_store member with before | ⟨before, present, same, rfl⟩
    · exact typed.fits binding before
    -- Storing changes every binding of the name, but there is only the one that was found.
    · obtain ⟨foundPresent, foundName⟩ := mem_of_find? there
      have only : before = found :=
        List.inj_on_of_nodup_map typed.distinct present foundPresent (same.trans foundName.symm)
      rw [only]
      exact Value.fits_of_coerce coerced

theorem Typed.bind {scope : Scope} (typed : scope.Typed) {name : String} {typeName : Option String}
    {value stored : Value} (fresh : scope.find? name = none) (coerced : value.coerce typeName = .ok stored) :
    (scope.bind { name, value := stored, typeName }).Typed where
  distinct := by
    simp only [Scope.bind, List.map_append, List.map_cons, List.map_nil]
    refine List.nodup_append.mpr ⟨typed.distinct, List.nodup_singleton _, ?_⟩
    intro other member this new
    obtain ⟨binding, present, rfl⟩ := List.mem_map.mp member
    have absent := List.find?_eq_none.mp fresh binding present
    rw [List.mem_singleton.mp new]
    simpa using absent
  fits binding member := by
    rcases List.mem_append.mp member with before | this
    · exact typed.fits binding before
    · rw [List.mem_singleton.mp this]
      exact Value.fits_of_coerce coerced

end Scope

namespace Scopes

theorem Typed.declare {scopes after : Scopes} (typed : scopes.Typed) {handle : Nat} {name : String}
    {value stored : Value} {typeName : Option String}
    (declared : scopes.declare handle name value typeName = .ok (stored, after)) : after.Typed := by
  obtain ⟨scope, found, fresh, coerced, rfl⟩ := declare_eq_ok declared
  exact forall_replaced typed ((typed handle scope found).bind fresh coerced)

theorem Typed.assign {scopes after : Scopes} (typed : scopes.Typed) {handle : Nat} {name : String}
    {value stored : Value} (assigned : scopes.assign handle name value = .ok (stored, after)) : after.Typed := by
  obtain ⟨owner, scope, found, -, present, there, coerced, rfl⟩ := assign_eq_ok assigned
  exact forall_replaced typed ((typed owner scope present).store there coerced)

end Scopes

namespace Heap

theorem Typed.setElement {heap : Heap} (typed : heap.Typed) {handle position : Nat} {elementType : String}
    {values : Array Value} {value stored : Value} (found : heap.get? handle = some (.array elementType values))
    (coerced : value.coerce (some elementType) = .ok stored) :
    (heap.set handle (.array elementType (values.setIfInBounds position stored))).Typed := by
  intro other otherType others there item member
  rcases get?_set_cases there with new | before
  · cases new
    rcases Array.mem_or_eq_of_mem_setIfInBounds member with old | rfl
    · exact typed handle elementType values found item old
    · exact Value.fits_of_coerce coerced
  · exact typed other otherType others before item member

theorem Typed.setObject {heap : Heap} (typed : heap.Typed) (handle : Nat) (className : String)
    (fields : List (String × Value)) : (heap.set handle (.object className fields)).Typed := by
  intro other elementType values there
  rcases get?_set_cases there with new | before
  · cases new
  · exact typed other elementType values before

theorem Typed.allocate {heap : Heap} (typed : heap.Typed) {context : Context} {element : String → Prop}
    {admitted : Value → Prop} {cell : Cell} (made : cell.Made context element admitted) :
    (heap.allocate cell).Typed := by
  intro handle elementType values there
  rcases get?_allocate_cases there with new | before
  · cases new
    exact fun value member => (made.2 value member).2
  · exact typed handle elementType values before

end Heap

theorem State.Typed.written {state written : State} {slot : Slot} {value stored : Value} (typed : state.Typed)
    (effect : slot.Written value state stored written) : written.Typed := by
  cases effect with
  | binding assigned => exact ⟨typed.scopes.assign assigned, typed.heap⟩
  | element found coerced => exact ⟨typed.scopes, typed.heap.setElement found coerced⟩
  | field found => exact ⟨typed.scopes, typed.heap.setObject _ _ _⟩

theorem State.invariant_typed (context : Context) : State.Invariant context State.Typed State.Typed where
  holds typed := typed
  bookkept typed same := ⟨same.scopes ▸ typed.scopes, same.heap ▸ typed.heap⟩
  recorded _ _ _ typed _ := ⟨typed.scopes, typed.heap⟩
  declared typed declared := ⟨typed.scopes.declare declared, typed.heap⟩
  stored _ typed effect := ⟨typed.written effect, (typed.written effect).scopes, (typed.written effect).heap⟩
  allocated _ typed made same := by
    have kept := typed.heap.allocate made
    rw [same]
    exact ⟨⟨typed.scopes, kept⟩, typed.scopes, kept⟩
  opened parent typed := ⟨Scopes.forall_opened typed.scopes Scope.typed_empty, typed.heap⟩
  entered _ typed := ⟨typed.scopes, typed.heap⟩
  left _ typed newest := ⟨Scopes.forall_released typed.scopes newest, typed.heap⟩
  framed _ typed := ⟨typed.scopes, typed.heap⟩

theorem State.initial_typed : State.initial.Typed where
  scopes := by
    intro handle scope found
    rw [State.eq_of_initial found]
    exact Scope.typed_empty
  heap := by
    intro handle elementType values found
    simp [State.initial, Heap.empty, Heap.get?] at found

/-- In every state of every run, conversion to the declared type would leave every variable's value as it is, and so it
would every element of an array. A place for doubles never holds an integer or a character, and one for integers
never a double or a character. -/
theorem stored_values_fit (context : Context) (state : State) (reached : context.Reaches state) :
    (∀ handle scope binding typeName, state.scopes.get? handle = some scope → binding ∈ scope.bindings →
      binding.typeName = some typeName →
      binding.value.coerce (some typeName) = .ok binding.value ∧ binding.value.InKind typeName) ∧
    (∀ handle elementType values value, state.heap.get? handle = some (.array elementType values) →
      value ∈ values → value.coerce (some elementType) = .ok value ∧ value.InKind elementType) := by
  have typed := (((State.invariant_typed context).runs State.initial_typed).passing state reached).2
  refine ⟨?_, ?_⟩
  · intro handle scope binding typeName found member declared
    have fits := (typed.scopes handle scope found).fits binding member
    rw [declared] at fits
    exact ⟨fits, fits.inKind⟩
  · intro handle elementType values value found member
    have fits := typed.heap handle elementType values found value member
    exact ⟨fits, fits.inKind⟩

/-- A program that stores characters as integers, in a static field and in an array. -/
def Context.ofCodes : Context where
  options := { maxSteps := 10, mode := .all }
  program :=
    { classes :=
        [{ line := 1, name := "Main",
           body :=
             [.field { line := 2, typeName := "int", name := "code", value := some (.char 2 "a"), isStatic := true },
               .method
                 { line := 3, returnType := "void", name := "main", params := [],
                   body :=
                     [.declare
                       { line := 4, typeName := "int[]", name := "codes",
                         value := some (.arrayOf 4 "int" [.char 4 "b"]), isStatic := false }] }] }] }

theorem stored_codes_fit :
    ∃ state, Context.ofCodes.Reaches state ∧
      (∃ scope, state.scopes.get? globalScope = some scope ∧
        { name := "code", value := .int 97, typeName := some "int" } ∈ scope.bindings) ∧
      state.heap.get? 0 = some (.array "int" #[.int 98]) ∧
      (Value.int 97).coerce (some "int") = .ok (.int 97) ∧ (Value.int 98).coerce (some "int") = .ok (.int 98) := by
  have reached := Context.ofCodes.execute.passes_ending State.initial
  have binding : (Context.ofCodes.execute.run State.initial).state.scopes.get? globalScope =
      some
        { parent := none,
          bindings :=
            [{ name := "Main", value := .class_ "Main" ["main"], typeName := none },
              { name := "code", value := .int 97, typeName := some "int" }] } := by decide +kernel
  have element : (Context.ofCodes.execute.run State.initial).state.heap.get? 0 =
      some (.array "int" #[.int 98]) := by decide +kernel
  obtain ⟨bindings, elements⟩ := stored_values_fit Context.ofCodes _ reached
  refine ⟨_, reached, ⟨_, binding, by simp⟩, element, ?_, ?_⟩
  · exact (bindings globalScope _ _ "int" binding (List.mem_cons_of_mem _ List.mem_cons_self) rfl).1
  · exact (elements 0 "int" _ (.int 98) element (by simp)).1

end Stepwise
