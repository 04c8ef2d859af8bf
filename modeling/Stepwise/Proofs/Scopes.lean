import Stepwise.Scopes

/-!
# The arena of scopes

What each operation does to the records of the arena. The shape of a record is all of it but the values: the scope
around it, and the names it binds with their declared types, in order. Where a name resolves to depends on shapes
only, so whatever keeps the shapes keeps every resolution.

An arena is nested when the scope around a scope is always an older one. Then the walk outwards ends by itself: it
never needs the bound that the definition of `resolveWithin` gives it, and it never leaves the arena.
-/

namespace Stepwise

set_option autoImplicit false

/-- A scope without its values: the scope around it, and the names with their declared types. -/
def Scope.shape (scope : Scope) : Option Nat × List (String × Option String) :=
  (scope.parent, scope.bindings.map fun binding => (binding.name, binding.typeName))

namespace Scope

theorem shape_store (scope : Scope) (name : String) (value : Value) :
    (scope.store name value).shape = scope.shape := by
  simp only [shape, store, List.map_map, Prod.mk.injEq, true_and]
  apply List.map_congr_left
  intro binding _
  simp only [Function.comp_apply]
  split <;> rfl

theorem find?_isSome_eq (scope : Scope) (name : String) :
    (scope.find? name).isSome = scope.shape.2.any fun entry => entry.1 = name := by
  simp only [find?, shape, List.any_map, List.isSome_find?]
  rfl

theorem find?_isSome_of_shape_eq {first second : Scope} (same : first.shape = second.shape) (name : String) :
    (first.find? name).isSome = (second.find? name).isSome := by
  rw [find?_isSome_eq, find?_isSome_eq, same]

theorem parent_of_shape_eq {first second : Scope} (same : first.shape = second.shape) :
    first.parent = second.parent :=
  congrArg Prod.fst same

theorem mem_of_find? {scope : Scope} {name : String} {found : Binding} (there : scope.find? name = some found) :
    found ∈ scope.bindings ∧ found.name = name := by
  refine ⟨List.mem_of_find?_eq_some there, ?_⟩
  simpa using List.find?_some there

/-- Bindings after a name got a new value: those of other names, and those of the name with the value. -/
theorem mem_store {scope : Scope} {name : String} {value : Value} {binding : Binding}
    (member : binding ∈ (scope.store name value).bindings) :
    binding ∈ scope.bindings ∨
      ∃ before ∈ scope.bindings, before.name = name ∧ binding = { before with value } := by
  obtain ⟨before, present, stored⟩ := List.mem_map.mp member
  by_cases same : before.name = name
  · rw [if_pos same] at stored
    exact .inr ⟨before, present, same, stored.symm⟩
  · rw [if_neg same] at stored
    exact .inl (stored ▸ present)

end Scope

namespace Scopes

def shape? (scopes : Scopes) (handle : Nat) : Option (Option Nat × List (String × Option String)) :=
  (scopes.get? handle).map Scope.shape

theorem get?_isSome {scopes : Scopes} {handle : Nat} : (scopes.get? handle).isSome ↔ handle < scopes.size := by
  simp [get?, size]

theorem get?_eq_none {scopes : Scopes} {handle : Nat} (beyond : scopes.size ≤ handle) : scopes.get? handle = none :=
  Array.getElem?_eq_none beyond

theorem lt_size_of_get? {scopes : Scopes} {handle : Nat} {scope : Scope} (found : scopes.get? handle = some scope) :
    handle < scopes.size :=
  get?_isSome.mp (by rw [found]; rfl)

theorem get?_opened (scopes : Scopes) (parent : Option Nat) (handle : Nat) :
    (scopes.opened parent).get? handle =
      if handle = scopes.size then some { parent, bindings := [] } else scopes.get? handle := by
  simp only [get?, opened, size, Array.getElem?_push]
  rfl

theorem get?_released_of_newest (scopes : Scopes) (handle other : Nat) (newest : handle + 1 = scopes.size) :
    (scopes.released handle).get? other = if other = handle then none else scopes.get? other := by
  have last : handle = scopes.records.size - 1 := by
    simp only [size] at newest
    omega
  simp only [released, newest, if_true, get?, Array.getElem?_pop]
  by_cases same : other = handle
  · rw [if_pos same, if_neg (by omega)]
  · rw [if_neg same]
    by_cases inside : other < scopes.records.size - 1
    · rw [if_pos inside]
    · rw [if_neg inside, Array.getElem?_eq_none (by omega)]

theorem size_released_of_newest (scopes : Scopes) (handle : Nat) (newest : handle + 1 = scopes.size) :
    (scopes.released handle).size = handle := by
  simp only [size] at newest ⊢
  simp only [released, size, newest, if_true, Array.size_pop]
  omega

theorem shape?_opened_of_ne (scopes : Scopes) (parent : Option Nat) {handle : Nat} (apart : handle ≠ scopes.size) :
    (scopes.opened parent).shape? handle = scopes.shape? handle := by
  rw [shape?, get?_opened, if_neg apart, shape?]

theorem shape?_released {before after : Scopes} (size : after.size = before.size + 1)
    (same : ∀ handle, handle ≠ before.size → after.shape? handle = before.shape? handle) (handle : Nat) :
    (after.released before.size).shape? handle = before.shape? handle := by
  rw [shape?, get?_released_of_newest after before.size handle size.symm]
  by_cases newest : handle = before.size
  · have absent : before.get? handle = none := by
      simp only [get?, newest]
      exact Array.getElem?_eq_none (Nat.le_refl _)
    rw [if_pos newest, shape?, absent]
  · rw [if_neg newest]
    exact same handle newest

def replaced (scopes : Scopes) (handle : Nat) (scope : Scope) : Scopes :=
  { records := scopes.records.setIfInBounds handle scope }

@[simp] theorem size_replaced (scopes : Scopes) (handle : Nat) (scope : Scope) :
    (scopes.replaced handle scope).size = scopes.size := by
  simp [replaced, size]

theorem get?_replaced (scopes : Scopes) (handle other : Nat) (scope : Scope) :
    (scopes.replaced handle scope).get? other =
      if handle = other then (if other < scopes.size then some scope else none) else scopes.get? other := by
  simp only [get?, replaced, size, Array.getElem?_setIfInBounds]
  by_cases same : handle = other
  · subst same
    simp only [if_true]
    rfl
  · simp only [same, if_false]

theorem get?_replaced_cases {scopes : Scopes} {handle other : Nat} {scope found : Scope}
    (there : (scopes.replaced handle scope).get? other = some found) :
    other = handle ∧ found = scope ∨ scopes.get? other = some found := by
  rw [get?_replaced] at there
  by_cases same : handle = other
  · rw [if_pos same] at there
    split at there
    · exact .inl ⟨same.symm, (Option.some.inj there).symm⟩
    · cases there
  · rw [if_neg same] at there
    exact .inr there

/-! What holds of every record is kept when a record is exchanged for one of which it holds, when a scope is opened, and
when the newest is closed. -/

theorem forall_replaced {holds : Scope → Prop} {scopes : Scopes}
    (all : ∀ handle scope, scopes.get? handle = some scope → holds scope) {handle : Nat} {scope : Scope}
    (new : holds scope) : ∀ other found, (scopes.replaced handle scope).get? other = some found → holds found := by
  intro other found there
  rcases get?_replaced_cases there with ⟨-, rfl⟩ | before
  · exact new
  · exact all other found before

theorem forall_opened {holds : Scope → Prop} {scopes : Scopes}
    (all : ∀ handle scope, scopes.get? handle = some scope → holds scope) {parent : Option Nat}
    (new : holds { parent, bindings := [] }) :
    ∀ handle scope, (scopes.opened parent).get? handle = some scope → holds scope := by
  intro handle scope found
  rw [get?_opened] at found
  split at found
  · cases found
    exact new
  · exact all handle scope found

theorem forall_released {holds : Scope → Prop} {scopes : Scopes}
    (all : ∀ handle scope, scopes.get? handle = some scope → holds scope) {handle : Nat}
    (newest : handle + 1 = scopes.size) :
    ∀ other scope, (scopes.released handle).get? other = some scope → holds scope := by
  intro other scope found
  rw [get?_released_of_newest scopes handle other newest] at found
  split at found
  · cases found
  · exact all other scope found

theorem shape?_replaced_of_ne (scopes : Scopes) {handle other : Nat} (scope : Scope) (apart : other ≠ handle) :
    (scopes.replaced handle scope).shape? other = scopes.shape? other := by
  rw [shape?, get?_replaced, if_neg (Ne.symm apart), shape?]

theorem shape?_replaced_of_shape_eq {scopes : Scopes} {handle : Nat} {before after : Scope} (other : Nat)
    (found : scopes.get? handle = some before) (same : after.shape = before.shape) :
    (scopes.replaced handle after).shape? other = scopes.shape? other := by
  by_cases equal : other = handle
  · subst equal
    rw [shape?, get?_replaced, if_pos rfl, if_pos (lt_size_of_get? found), shape?, found]
    simp only [Option.map_some, same]
  · exact shape?_replaced_of_ne scopes after equal

theorem declare_eq_ok {scopes after : Scopes} {handle : Nat} {name : String} {value stored : Value}
    {typeName : Option String} (declared : scopes.declare handle name value typeName = .ok (stored, after)) :
    ∃ scope, scopes.get? handle = some scope ∧ scope.find? name = none ∧ value.coerce typeName = .ok stored ∧
      after = scopes.replaced handle (scope.bind { name, value := stored, typeName }) := by
  unfold declare at declared
  split at declared
  · cases declared
  · next scope found =>
      split at declared
      · cases declared
      · next fresh =>
          split at declared
          · cases declared
          · next converted coerced =>
              obtain ⟨rfl, rfl⟩ := Prod.mk.inj (Except.ok.inj declared)
              exact ⟨scope, found, by simpa using fresh, coerced, rfl⟩

theorem binding_eq_ok {scopes : Scopes} {handle owner : Nat} {name : String} {scope : Scope} {found : Binding}
    (bound : scopes.binding handle name = .ok (owner, scope, found)) :
    scopes.resolve handle name = .ok owner ∧ scopes.get? owner = some scope ∧ scope.find? name = some found := by
  unfold binding at bound
  split at bound
  · cases bound
  · next resolved resolution =>
      split at bound
      · cases bound
      · next record present =>
          split at bound
          · cases bound
          · next entry there =>
              obtain ⟨rfl, rfl, rfl⟩ : resolved = owner ∧ record = scope ∧ entry = found := by
                simpa using bound
              exact ⟨resolution, present, there⟩

theorem assign_eq_ok {scopes after : Scopes} {handle : Nat} {name : String} {value stored : Value}
    (assigned : scopes.assign handle name value = .ok (stored, after)) :
    ∃ owner scope found, scopes.resolve handle name = .ok owner ∧ scopes.get? owner = some scope ∧
      scope.find? name = some found ∧ value.coerce found.typeName = .ok stored ∧
      after = scopes.replaced owner (scope.store name stored) := by
  unfold assign at assigned
  split at assigned
  · cases assigned
  · next owner scope found bound =>
      split at assigned
      · cases assigned
      · next converted coerced =>
          obtain ⟨resolution, present, there⟩ := binding_eq_ok bound
          obtain ⟨rfl, rfl⟩ := Prod.mk.inj (Except.ok.inj assigned)
          exact ⟨owner, scope, found, resolution, present, there, coerced, rfl⟩

theorem shape?_assign {scopes after : Scopes} {handle : Nat} {name : String} {value stored : Value}
    (assigned : scopes.assign handle name value = .ok (stored, after)) (other : Nat) :
    after.shape? other = scopes.shape? other := by
  obtain ⟨owner, scope, found, -, present, -, -, rfl⟩ := assign_eq_ok assigned
  exact shape?_replaced_of_shape_eq other present (scope.shape_store name stored)

theorem size_assign {scopes after : Scopes} {handle : Nat} {name : String} {value stored : Value}
    (assigned : scopes.assign handle name value = .ok (stored, after)) : after.size = scopes.size := by
  obtain ⟨owner, scope, found, -, -, -, -, rfl⟩ := assign_eq_ok assigned
  exact size_replaced scopes owner _

theorem size_declare {scopes after : Scopes} {handle : Nat} {name : String} {value stored : Value}
    {typeName : Option String} (declared : scopes.declare handle name value typeName = .ok (stored, after)) :
    after.size = scopes.size := by
  obtain ⟨scope, -, -, -, rfl⟩ := declare_eq_ok declared
  exact size_replaced scopes handle _

theorem shape?_declare_of_ne {scopes after : Scopes} {handle other : Nat} {name : String} {value stored : Value}
    {typeName : Option String} (declared : scopes.declare handle name value typeName = .ok (stored, after))
    (apart : other ≠ handle) : after.shape? other = scopes.shape? other := by
  obtain ⟨scope, -, -, -, rfl⟩ := declare_eq_ok declared
  exact shape?_replaced_of_ne scopes _ apart

theorem resolveWithin_congr {first second : Scopes} (same : ∀ handle, first.shape? handle = second.shape? handle)
    (name : String) (bound handle : Nat) :
    first.resolveWithin name bound handle = second.resolveWithin name bound handle := by
  induction bound generalizing handle with
  | zero => rfl
  | succ bound ih =>
      have shapes := same handle
      unfold shape? at shapes
      simp only [resolveWithin]
      cases left : first.get? handle with
      | none =>
          cases right : second.get? handle with
          | none => rfl
          | some scope => simp [left, right] at shapes
      | some scope =>
          cases right : second.get? handle with
          | none => simp [left, right] at shapes
          | some other =>
              have equal : scope.shape = other.shape := by simpa [left, right] using shapes
              simp only [Scope.find?_isSome_of_shape_eq equal name, Scope.parent_of_shape_eq equal, ih]

theorem resolve_congr {first second : Scopes} (size : first.size = second.size)
    (same : ∀ handle, first.shape? handle = second.shape? handle) (handle : Nat) (name : String) :
    first.resolve handle name = second.resolve handle name := by
  rw [resolve, resolve, size]
  exact resolveWithin_congr same name _ handle

/-- The scope around a scope is always an older one. -/
def Nested (scopes : Scopes) : Prop :=
  ∀ handle scope parent, scopes.get? handle = some scope → scope.parent = some parent → parent < handle

theorem Nested.opened {scopes : Scopes} (nested : scopes.Nested) {parent : Nat} (older : parent < scopes.size) :
    (scopes.opened (some parent)).Nested := by
  intro handle scope around found inside
  rw [get?_opened] at found
  split at found
  · next same =>
      cases found
      cases inside
      omega
  · exact nested handle scope around found inside

theorem Nested.released {scopes : Scopes} (nested : scopes.Nested) (handle : Nat) :
    (scopes.released handle).Nested := by
  by_cases newest : handle + 1 = scopes.size
  · intro other scope around found inside
    rw [get?_released_of_newest scopes handle other newest] at found
    split at found
    · cases found
    · exact nested other scope around found inside
  · rw [Scopes.released, if_neg newest]
    exact nested

theorem Nested.replaced {scopes : Scopes} (nested : scopes.Nested) {handle : Nat} {before after : Scope}
    (found : scopes.get? handle = some before) (same : after.parent = before.parent) :
    (scopes.replaced handle after).Nested := by
  intro other scope around there inside
  rcases get?_replaced_cases there with ⟨rfl, rfl⟩ | old
  · exact nested other before around found (same ▸ inside)
  · exact nested other scope around old inside

theorem Nested.declare {scopes after : Scopes} (nested : scopes.Nested) {handle : Nat} {name : String}
    {value stored : Value} {typeName : Option String}
    (declared : scopes.declare handle name value typeName = .ok (stored, after)) : after.Nested := by
  obtain ⟨scope, found, -, -, rfl⟩ := declare_eq_ok declared
  exact nested.replaced found rfl

theorem Nested.assign {scopes after : Scopes} (nested : scopes.Nested) {handle : Nat} {name : String}
    {value stored : Value} (assigned : scopes.assign handle name value = .ok (stored, after)) : after.Nested := by
  obtain ⟨owner, scope, found, -, present, -, -, rfl⟩ := assign_eq_ok assigned
  exact nested.replaced present rfl

/-- In a nested arena the walk outwards takes at most one step for each older scope; a larger bound changes
nothing. -/
theorem Nested.resolveWithin_eq {scopes : Scopes} (nested : scopes.Nested) (name : String) {handle bound other : Nat}
    (enough : handle < bound) (alsoEnough : handle < other) :
    scopes.resolveWithin name bound handle = scopes.resolveWithin name other handle := by
  induction bound generalizing handle other with
  | zero => omega
  | succ bound ih =>
      obtain ⟨smaller, rfl⟩ : ∃ smaller, other = smaller + 1 := ⟨other - 1, by omega⟩
      simp only [resolveWithin]
      cases found : scopes.get? handle with
      | none => rfl
      | some scope =>
          dsimp only
          split
          · rfl
          · cases around : scope.parent with
            | none => rfl
            | some parent =>
                have older := nested handle scope parent found around
                exact ih (by omega) (by omega)

/-- In a nested arena the walk outwards from a scope stays among the scopes there are: it finds a scope that binds
the name, or the name is bound nowhere on the way. -/
theorem Nested.resolveWithin_cases {scopes : Scopes} (nested : scopes.Nested) (name : String) {handle : Nat}
    (inside : handle < scopes.size) (bound : Nat) :
    (∃ owner scope found, scopes.resolveWithin name bound handle = .ok owner ∧ owner < scopes.size ∧
      scopes.get? owner = some scope ∧ scope.find? name = some found) ∨
    scopes.resolveWithin name bound handle = .error (.bare (.unknownName name)) := by
  induction bound generalizing handle with
  | zero => exact .inr rfl
  | succ bound ih =>
      obtain ⟨scope, found⟩ := Option.isSome_iff_exists.mp (get?_isSome.mpr inside)
      simp only [resolveWithin, found]
      cases there : scope.find? name with
      | some entry => exact .inl ⟨handle, scope, entry, rfl, inside, found, there⟩
      | none =>
          cases around : scope.parent with
          | none => exact .inr rfl
          | some parent =>
              have older := nested handle scope parent found around
              exact ih (by omega)

theorem Nested.resolve_cases {scopes : Scopes} (nested : scopes.Nested) (name : String) {handle : Nat}
    (inside : handle < scopes.size) :
    (∃ owner scope found, scopes.resolve handle name = .ok owner ∧ owner < scopes.size ∧
      scopes.get? owner = some scope ∧ scope.find? name = some found) ∨
    scopes.resolve handle name = .error (.bare (.unknownName name)) :=
  nested.resolveWithin_cases name inside _

theorem Nested.binding_cases {scopes : Scopes} (nested : scopes.Nested) (name : String) {handle : Nat}
    (inside : handle < scopes.size) :
    (∃ owner scope found, scopes.binding handle name = .ok (owner, scope, found) ∧
      scopes.get? owner = some scope ∧ found ∈ scope.bindings) ∨
    scopes.binding handle name = .error (.bare (.unknownName name)) := by
  unfold binding
  rcases nested.resolve_cases name inside with ⟨owner, scope, found, resolved, -, present, there⟩ | unknown
  · refine .inl ⟨owner, scope, found, ?_, present, List.mem_of_find?_eq_some there⟩
    rw [resolved]
    dsimp only
    rw [present]
    dsimp only
    rw [there]
  · rw [unknown]
    exact .inr rfl

def Hold (admitted : Value → Prop) (scopes : Scopes) : Prop :=
  ∀ handle scope, scopes.get? handle = some scope → ∀ binding ∈ scope.bindings, admitted binding.value

variable {admitted : Value → Prop}

theorem Hold.declare {scopes after : Scopes} (hold : scopes.Hold admitted) {handle : Nat} {name : String}
    {value stored : Value} {typeName : Option String} (kept : admitted stored)
    (declared : scopes.declare handle name value typeName = .ok (stored, after)) : after.Hold admitted := by
  obtain ⟨scope, found, -, -, rfl⟩ := declare_eq_ok declared
  refine forall_replaced hold fun binding member => ?_
  rcases List.mem_append.mp member with before | this
  · exact hold handle scope found binding before
  · rw [List.mem_singleton.mp this]
    exact kept

theorem Hold.assign {scopes after : Scopes} (hold : scopes.Hold admitted) {handle : Nat} {name : String}
    {value stored : Value} (kept : admitted stored)
    (assigned : scopes.assign handle name value = .ok (stored, after)) : after.Hold admitted := by
  obtain ⟨owner, scope, found, -, present, -, -, rfl⟩ := assign_eq_ok assigned
  refine forall_replaced hold fun binding member => ?_
  rcases Scope.mem_store member with before | ⟨before, -, -, rfl⟩
  · exact hold owner scope present binding before
  · exact kept

theorem Hold.opened {scopes : Scopes} (hold : scopes.Hold admitted) (parent : Option Nat) :
    (scopes.opened parent).Hold admitted :=
  forall_opened hold fun _ impossible => absurd impossible List.not_mem_nil

theorem Hold.released {scopes : Scopes} (hold : scopes.Hold admitted) {handle : Nat}
    (newest : handle + 1 = scopes.size) : (scopes.released handle).Hold admitted :=
  forall_released hold newest

theorem Hold.lookup {scopes : Scopes} (hold : scopes.Hold admitted) {handle : Nat} {name : String} {value : Value}
    (found : scopes.lookup handle name = .ok value) : admitted value := by
  unfold Scopes.lookup at found
  split at found
  · cases found
  · next owner scope binding bound =>
      cases found
      obtain ⟨-, present, there⟩ := binding_eq_ok bound
      exact hold owner scope present binding (List.mem_of_find?_eq_some there)

end Scopes

end Stepwise
