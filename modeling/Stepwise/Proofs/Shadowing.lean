import Stepwise.Proofs.Slots

/-!
# What a name means from each scope

A scope and the scopes around it form a chain, from the inside out, and a name means the first binding of it along the
chain. So an assignment is seen from every scope whose chain comes to the same binding, and from no other. A
declaration is seen from every scope whose chain comes to the declaring scope before it comes to another one that binds
the name; for all others the name is shadowed, or the declaring scope is not around them. A new scope sees what the
scope around it sees. An operation that fails leaves the arena as it was.
-/

namespace Stepwise

set_option autoImplicit false

theorem Scope.find?_store_of_ne (scope : Scope) {name key : String} (value : Value) (different : key ≠ name) :
    (scope.store name value).find? key = scope.find? key := by
  rw [find?_store]
  cases there : scope.find? key with
  | none => rfl
  | some found =>
      have named : found.name = key := (mem_of_find? there).2
      rw [Option.map_some, if_neg fun equal => different (named.symm.trans equal)]

namespace Scopes

/-- The scopes from one outwards, over at most so many of them. -/
def chainWithin (scopes : Scopes) : Nat → Nat → List Nat
  | 0, _ => []
  | bound + 1, handle =>
      match scopes.get? handle with
      | none => []
      | some scope =>
          handle ::
            match scope.parent with
            | none => []
            | some parent => chainWithin scopes bound parent

/-- A scope and the scopes around it, from the inside out. -/
def chain (scopes : Scopes) (handle : Nat) : List Nat :=
  scopes.chainWithin (scopes.size + 1) handle

/-- What a scope itself binds a name to. -/
def ownBinding? (scopes : Scopes) (handle : Nat) (name : String) : Option Binding :=
  (scopes.get? handle).bind fun scope => scope.find? name

def binds (scopes : Scopes) (name : String) (handle : Nat) : Bool :=
  (scopes.ownBinding? handle name).isSome

/-- The chain of `inner` comes to the scope `outer` before it comes to another one that binds the name. -/
def ReachesFirst (scopes : Scopes) (name : String) (outer inner : Nat) : Prop :=
  (scopes.chain inner).find? (fun each => decide (each = outer) || scopes.binds name each) = some outer

instance (scopes : Scopes) (name : String) (outer inner : Nat) : Decidable (scopes.ReachesFirst name outer inner) :=
  inferInstanceAs (Decidable (_ = _))

variable {scopes after : Scopes} {handle owner : Nat} {name key : String} {value stored : Value}
  {typeName : Option String}

theorem Nested.resolveWithin_eq_find? (nested : scopes.Nested) (name : String) (inside : handle < scopes.size)
    (bound : Nat) :
    scopes.resolveWithin name bound handle =
      match (scopes.chainWithin bound handle).find? (scopes.binds name) with
      | some owner => .ok owner
      | none => .error (.bare (.unknownName name)) := by
  induction bound generalizing handle with
  | zero => rfl
  | succ bound ih =>
      obtain ⟨scope, found⟩ := Option.isSome_iff_exists.mp (get?_isSome.mpr inside)
      have bindsHere : scopes.binds name handle = (scope.find? name).isSome := by
        rw [binds, ownBinding?, found, Option.bind_some]
      simp only [resolveWithin, chainWithin, found, List.find?_cons, bindsHere]
      cases bound? : (scope.find? name).isSome with
      | true => rfl
      | false =>
          cases around : scope.parent with
          | none => rfl
          | some parent =>
              have older := nested handle scope parent found around
              exact ih (by omega)

/-- A name resolves to the first scope of the chain that binds it. -/
theorem Nested.resolve_eq_find? (nested : scopes.Nested) (name : String) (inside : handle < scopes.size) :
    scopes.resolve handle name =
      match (scopes.chain handle).find? (scopes.binds name) with
      | some owner => .ok owner
      | none => .error (.bare (.unknownName name)) :=
  nested.resolveWithin_eq_find? name inside _

theorem resolve_of_absent (absent : scopes.get? handle = none) (name : String) :
    scopes.resolve handle name = .error (.fault .missingHandle) := by
  simp only [resolve, resolveWithin, absent]

theorem chain_congr {first second : Scopes} (size : first.size = second.size)
    (same : ∀ handle, (first.get? handle).map Scope.parent = (second.get? handle).map Scope.parent) (handle : Nat) :
    first.chain handle = second.chain handle := by
  have within : ∀ bound handle, first.chainWithin bound handle = second.chainWithin bound handle := by
    intro bound
    induction bound with
    | zero => exact fun _ => rfl
    | succ bound ih =>
        intro handle
        have parents := same handle
        simp only [chainWithin]
        cases one : first.get? handle with
        | none =>
            rw [one, Option.map_none] at parents
            rw [Option.map_eq_none_iff.mp parents.symm]
        | some scope =>
            rw [one, Option.map_some] at parents
            obtain ⟨other, two, equal⟩ := Option.map_eq_some_iff.mp parents.symm
            simp only [two, equal, ih]
  rw [chain, chain, size]
  exact within _ handle

/-- Where a name resolves to there is a binding of it, and this is what is looked up. -/
theorem lookup_of_resolve (resolved : scopes.resolve handle name = .ok owner) :
    ∃ found, scopes.ownBinding? owner name = some found ∧ scopes.lookup handle name = .ok found.value := by
  have present : ∀ bound inner, scopes.resolveWithin name bound inner = .ok owner →
      ∃ scope found, scopes.get? owner = some scope ∧ scope.find? name = some found := by
    intro bound
    induction bound with
    | zero => exact fun inner impossible => by cases impossible
    | succ bound ih =>
        intro inner walked
        simp only [resolveWithin] at walked
        split at walked
        · cases walked
        · next scope found =>
            split at walked
            · next isBound =>
                cases walked
                obtain ⟨entry, there⟩ := Option.isSome_iff_exists.mp isBound
                exact ⟨scope, entry, found, there⟩
            · split at walked
              · cases walked
              · exact ih _ walked
  obtain ⟨scope, found, there, entry⟩ := present _ _ resolved
  refine ⟨found, by rw [ownBinding?, there, Option.bind_some, entry], ?_⟩
  rw [lookup, binding_of_resolve resolved there entry]

theorem lookup_of_unresolved {failure : Failure} (unresolved : scopes.resolve handle name = .error failure) :
    scopes.lookup handle name = .error failure := by
  simp only [lookup, binding, unresolved]

/-- A lookup is the same where the name resolves to the same scope and is bound there to the same. -/
theorem lookup_congr {first second : Scopes} {one two : Nat}
    (resolved : first.resolve one name = second.resolve two name)
    (entries : ∀ owner, second.resolve two name = .ok owner →
      first.ownBinding? owner name = second.ownBinding? owner name) :
    first.lookup one name = second.lookup two name := by
  cases right : second.resolve two name with
  | error failure =>
      rw [right] at resolved
      rw [lookup_of_unresolved resolved, lookup_of_unresolved right]
  | ok owner =>
      rw [right] at resolved
      obtain ⟨found, entry, looked⟩ := lookup_of_resolve resolved
      obtain ⟨other, otherEntry, otherLooked⟩ := lookup_of_resolve right
      have same := entries owner right
      rw [entry, otherEntry] at same
      rw [looked, otherLooked, Option.some.inj same]

/-- An assignment exchanges one value: that of the binding which the name resolved to. -/
theorem ownBinding?_assign (assigned : scopes.assign handle name value = .ok (stored, after)) :
    ∃ owner, ∃ found : Binding, scopes.resolve handle name = .ok owner ∧
      after.ownBinding? owner name = some { found with value := stored } ∧
      ∀ other key, ¬(other = owner ∧ key = name) → after.ownBinding? other key = scopes.ownBinding? other key := by
  obtain ⟨owner, scope, found, resolved, present, there, -, rfl⟩ := assign_eq_ok assigned
  refine ⟨owner, found, resolved, ?_, ?_⟩
  · rw [ownBinding?, get?_replaced, if_pos rfl, if_pos (lt_size_of_get? present), Option.bind_some,
      Scope.find?_store_self there]
  · intro other key apart
    rw [ownBinding?, ownBinding?, get?_replaced]
    by_cases same : owner = other
    · subst same
      have different : key ≠ name := fun equal => apart ⟨rfl, equal⟩
      rw [if_pos rfl, if_pos (lt_size_of_get? present), present, Option.bind_some, Option.bind_some,
        Scope.find?_store_of_ne scope stored different]
    · rw [if_neg same]

theorem resolve_assign (assigned : scopes.assign handle name value = .ok (stored, after)) (other : Nat) (key : String) :
    after.resolve other key = scopes.resolve other key :=
  resolve_congr (size_assign assigned) (shape?_assign assigned) other key

theorem lookup_assign_of_same (assigned : scopes.assign handle name value = .ok (stored, after)) {other : Nat}
    (same : scopes.resolve other name = scopes.resolve handle name) : after.lookup other name = .ok stored := by
  obtain ⟨owner, found, resolved, entry, -⟩ := ownBinding?_assign assigned
  have resolvedAfter : after.resolve other name = .ok owner := by rw [resolve_assign assigned, same, resolved]
  obtain ⟨later, laterEntry, looked⟩ := lookup_of_resolve resolvedAfter
  rw [entry] at laterEntry
  rw [looked, ← Option.some.inj laterEntry]

theorem lookup_assign_of_other (assigned : scopes.assign handle name value = .ok (stored, after)) {other : Nat}
    (apart : ¬(key = name ∧ scopes.resolve other name = scopes.resolve handle name)) :
    after.lookup other key = scopes.lookup other key := by
  obtain ⟨owner, found, resolved, -, kept⟩ := ownBinding?_assign assigned
  refine lookup_congr (resolve_assign assigned other key) fun place placed => kept place key ?_
  rintro ⟨rfl, rfl⟩
  exact apart ⟨rfl, by rw [placed, resolved]⟩

theorem map_names_snapshot (scopes : Scopes) (handle : Nat) :
    (scopes.snapshot handle).map (List.map Prod.fst) =
      match scopes.shape? handle with
      | none => .error (.fault .missingHandle)
      | some shape => .ok (shape.2.map Prod.fst) := by
  unfold snapshot shape?
  cases scopes.get? handle with
  | none => rfl
  | some scope =>
      simp only [Except.map, Option.map_some, Scope.shape, List.map_map]
      rfl

theorem parent_declare (declared : scopes.declare handle name value typeName = .ok (stored, after)) (other : Nat) :
    (after.get? other).map Scope.parent = (scopes.get? other).map Scope.parent := by
  obtain ⟨scope, found, -, -, rfl⟩ := declare_eq_ok declared
  rw [get?_replaced]
  by_cases same : handle = other
  · subst same
    rw [if_pos rfl, if_pos (lt_size_of_get? found), found]
    rfl
  · rw [if_neg same]

/-- A declaration adds one binding: that of the name in the scope. -/
theorem ownBinding?_declare (declared : scopes.declare handle name value typeName = .ok (stored, after)) (other : Nat)
    (key : String) :
    after.ownBinding? other key =
      if other = handle ∧ key = name then some { name, value := stored, typeName }
        else scopes.ownBinding? other key := by
  obtain ⟨scope, found, fresh, -, rfl⟩ := declare_eq_ok declared
  rw [ownBinding?, get?_replaced]
  by_cases same : handle = other
  · subst same
    rw [if_pos rfl, if_pos (lt_size_of_get? found), Option.bind_some, ownBinding?, found, Option.bind_some]
    by_cases equal : key = name
    · subst equal
      rw [if_pos ⟨rfl, rfl⟩]
      simp only [Scope.find?] at fresh
      simp only [Scope.find?, Scope.bind, List.find?_append, fresh, Option.none_or, List.find?_cons, decide_true]
    · rw [if_neg fun both => equal both.2]
      have different : name ≠ key := fun same => equal same.symm
      simp only [Scope.find?, Scope.bind, List.find?_append, List.find?_cons, different, decide_false, List.find?_nil,
        Option.or_none]
  · rw [if_neg same, if_neg fun both => same both.1.symm, ownBinding?]

theorem binds_declare (declared : scopes.declare handle name value typeName = .ok (stored, after)) (other : Nat)
    (key : String) :
    after.binds key other = (decide (other = handle ∧ key = name) || scopes.binds key other) := by
  rw [binds, binds, ownBinding?_declare declared]
  split
  · next there => simp [there]
  · next elsewhere => simp [elsewhere]

theorem binds_declare_same (declared : scopes.declare handle name value typeName = .ok (stored, after)) :
    after.binds name = fun each => decide (each = handle) || scopes.binds name each := by
  funext each
  simp [binds_declare declared]

theorem binds_declare_of_ne (declared : scopes.declare handle name value typeName = .ok (stored, after))
    (other : key ≠ name) : after.binds key = scopes.binds key := by
  funext each
  simp [binds_declare declared, other]

theorem chain_declare (declared : scopes.declare handle name value typeName = .ok (stored, after)) (other : Nat) :
    after.chain other = scopes.chain other :=
  chain_congr (size_declare declared) (parent_declare declared) other

theorem get?_declare_eq_none (declared : scopes.declare handle name value typeName = .ok (stored, after)) {other : Nat}
    (absent : scopes.get? other = none) : after.get? other = none := by
  have same := parent_declare declared other
  rw [absent, Option.map_none] at same
  exact Option.map_eq_none_iff.mp same

/-- Where the first element that has a property or is `target` is not `target`, it makes no difference. -/
theorem find?_or_of_ne {holds : Nat → Bool} {target : Nat} {list : List Nat}
    (other : list.find? (fun each => decide (each = target) || holds each) ≠ some target) :
    list.find? (fun each => decide (each = target) || holds each) = list.find? holds := by
  induction list with
  | nil => rfl
  | cons each others ih =>
      rw [List.find?_cons] at other ⊢
      by_cases same : each = target
      · simp [same] at other
      · simp only [same, decide_false, Bool.false_or, List.find?_cons] at other ⊢
        cases here : holds each with
        | true => rfl
        | false =>
            rw [here] at other
            exact ih other

section Declared

variable (nested : scopes.Nested) (declared : scopes.declare handle name value typeName = .ok (stored, after))
include nested declared

/-- From a scope whose chain comes to the declaring scope first, the name resolves to that. -/
theorem resolve_declare_of_first {other : Nat} (first : scopes.ReachesFirst name handle other) :
    after.resolve other name = .ok handle := by
  have inside : other < after.size := by
    by_contra outside
    have absent : scopes.get? other = none := get?_eq_none (by rw [size_declare declared] at outside; omega)
    simp [ReachesFirst, chain, chainWithin, absent] at first
  rw [(nested.declare declared).resolve_eq_find? name inside, chain_declare declared, binds_declare_same declared,
    first]

theorem resolve_declare_of_other {other : Nat} (apart : ¬(key = name ∧ scopes.ReachesFirst name handle other)) :
    after.resolve other key = scopes.resolve other key := by
  by_cases inside : other < scopes.size
  · have insideAfter : other < after.size := by rw [size_declare declared]; exact inside
    rw [(nested.declare declared).resolve_eq_find? key insideAfter, nested.resolve_eq_find? key inside,
      chain_declare declared]
    by_cases equal : key = name
    · subst equal
      have later : ¬scopes.ReachesFirst key handle other := fun first => apart ⟨rfl, first⟩
      rw [binds_declare_same declared, find?_or_of_ne later]
    · rw [binds_declare_of_ne declared equal]
  · have absent : scopes.get? other = none := get?_eq_none (Nat.le_of_not_lt inside)
    rw [resolve_of_absent absent, resolve_of_absent (get?_declare_eq_none declared absent)]

theorem lookup_declare_of_first {other : Nat} (first : scopes.ReachesFirst name handle other) :
    after.lookup other name = .ok stored := by
  obtain ⟨found, entry, looked⟩ := lookup_of_resolve (resolve_declare_of_first nested declared first)
  rw [ownBinding?_declare declared, if_pos ⟨rfl, rfl⟩] at entry
  rw [looked, ← Option.some.inj entry]

theorem lookup_declare_of_other {other : Nat} (apart : ¬(key = name ∧ scopes.ReachesFirst name handle other)) :
    after.lookup other key = scopes.lookup other key := by
  refine lookup_congr (resolve_declare_of_other nested declared apart) fun owner resolved => ?_
  rw [ownBinding?_declare declared, if_neg]
  rintro ⟨rfl, rfl⟩
  obtain ⟨found, entry, -⟩ := lookup_of_resolve resolved
  obtain ⟨scope, present, fresh, -⟩ := declare_eq_ok declared
  rw [ownBinding?, present, Option.bind_some, fresh] at entry
  cases entry

end Declared

theorem snapshot_declare (declared : scopes.declare handle name value typeName = .ok (stored, after)) (other : Nat) :
    after.snapshot other =
      if other = handle then (scopes.snapshot other).map (· ++ [(name, stored)]) else scopes.snapshot other := by
  obtain ⟨scope, found, -, -, rfl⟩ := declare_eq_ok declared
  rw [snapshot, get?_replaced]
  by_cases same : handle = other
  · subst same
    rw [if_pos rfl, if_pos (lt_size_of_get? found), if_pos rfl, snapshot, found]
    simp only [Scope.bind, List.map_append, List.map_cons, List.map_nil, Except.map]
  · rw [if_neg same, if_neg fun equal => same equal.symm, snapshot]

section Opened

variable (nested : scopes.Nested) (parent : Option Nat)
include nested

theorem resolveWithin_opened (name : String) (inside : handle < scopes.size) (bound : Nat) :
    (scopes.opened parent).resolveWithin name bound handle = scopes.resolveWithin name bound handle := by
  induction bound generalizing handle with
  | zero => rfl
  | succ bound ih =>
      obtain ⟨scope, found⟩ := Option.isSome_iff_exists.mp (get?_isSome.mpr inside)
      have same : (scopes.opened parent).get? handle = some scope := by
        rw [get?_opened, if_neg (Nat.ne_of_lt inside), found]
      simp only [resolveWithin, found, same]
      split
      · rfl
      · cases around : scope.parent with
        | none => rfl
        | some outer =>
            have older := nested handle scope outer found around
            exact ih (by omega)

theorem resolve_opened (name : String) (inside : handle < scopes.size) :
    (scopes.opened parent).resolve handle name = scopes.resolve handle name := by
  rw [resolve, resolveWithin_opened nested parent name inside, resolve, size_opened]
  exact nested.resolveWithin_eq name (by omega) (by omega)

theorem lookup_opened (name : String) (inside : handle < scopes.size) :
    (scopes.opened parent).lookup handle name = scopes.lookup handle name := by
  refine lookup_congr (resolve_opened nested parent name inside) fun owner resolved => ?_
  rw [ownBinding?, ownBinding?, get?_opened, if_neg]
  rintro rfl
  obtain ⟨found, entry, -⟩ := lookup_of_resolve resolved
  rw [ownBinding?, get?_eq_none (Nat.le_refl _)] at entry
  cases entry

theorem resolve_new (name : String) (inside : handle < scopes.size) :
    (scopes.opened (some handle)).resolve scopes.size name = scopes.resolve handle name := by
  have new : (scopes.opened (some handle)).get? scopes.size = some { parent := some handle, bindings := [] } := by
    rw [get?_opened, if_pos rfl]
  rw [← resolve_opened nested (some handle) name inside, resolve, resolve, size_opened, resolveWithin, new]
  exact (nested.opened inside).resolveWithin_eq name (by omega) (by omega)

theorem lookup_new (name : String) (inside : handle < scopes.size) :
    (scopes.opened (some handle)).lookup scopes.size name = scopes.lookup handle name := by
  rw [← lookup_opened nested (some handle) name inside]
  refine lookup_congr ?_ fun _ _ => rfl
  rw [resolve_new nested name inside, resolve_opened nested (some handle) name inside]

end Opened

end Scopes

namespace Machine

theorem run_ofOutcome_bind_eq_error {α β : Type} {outcome : Except Failure α} {next : α → Machine β}
    {state final : State} {failure : Failure}
    (total : ∀ value, ∃ result after, (next value).run state = .ok result after) :
    (ofOutcome outcome >>= next).run state = .error failure final ↔ outcome = .error failure ∧ final = state := by
  cases outcome with
  | ok value =>
      obtain ⟨result, after, ended⟩ := total value
      have completed : (ofOutcome (.ok value) >>= next).run state = .ok result after := ended
      simp [completed]
  | error cause =>
      have failed : (ofOutcome (.error cause) >>= next).run state = .error cause state := rfl
      rw [failed]
      constructor
      · rintro ⟨rfl, rfl⟩
        exact ⟨rfl, rfl⟩
      · rintro ⟨same, rfl⟩
        cases same
        rfl

variable {state final : State} {failure : Failure} {handle : Nat} {name : String} {value : Value}
  {typeName : Option String}

theorem run_declareIn_eq_error :
    (declareIn handle name value typeName).run state = .error failure final ↔
      state.scopes.declare handle name value typeName = .error failure ∧ final = state :=
  run_ofOutcome_bind_eq_error fun _ => ⟨(), _, rfl⟩

theorem run_write_binding_eq_error :
    ((Slot.binding handle name).write value).run state = .error failure final ↔
      state.scopes.assign handle name value = .error failure ∧ final = state :=
  run_ofOutcome_bind_eq_error fun _ => ⟨_, _, rfl⟩

theorem run_ofName_eq_error :
    (Slot.ofName name).run state = .error failure final ↔
      state.scopes.resolve state.current name = .error failure ∧ final = state :=
  run_ofOutcome_bind_eq_error fun _ => ⟨_, _, rfl⟩

theorem run_lookup_eq_error :
    (lookup name).run state = .error failure final ↔
      state.scopes.lookup state.current name = .error failure ∧ final = state := by
  rw [lookup, run_bind_of_ok _ (run_get state)]
  cases state.scopes.lookup state.current name with
  | ok value => exact ⟨nofun, nofun⟩
  | error cause =>
      constructor
      · rintro ⟨⟩
        exact ⟨rfl, rfl⟩
      · rintro ⟨⟨⟩, rfl⟩
        rfl

end Machine

/-- In a nested arena each change is seen from the scopes it is meant for and from no others: an assignment where the
name resolves to the same binding, a declaration where the chain comes to it first, a new scope as the one around it.
Closing the scope that was opened last undoes the opening, and what fails changes nothing. -/
theorem Scopes.changes_seen {scopes : Scopes} (nested : scopes.Nested) {handle : Nat} (inside : handle < scopes.size)
    (name : String) :
    (∀ value stored after, scopes.assign handle name value = .ok (stored, after) →
      (∀ other key, key = name ∧ scopes.resolve other name = scopes.resolve handle name →
        after.lookup other key = .ok stored) ∧
      (∀ other key, ¬(key = name ∧ scopes.resolve other name = scopes.resolve handle name) →
        after.lookup other key = scopes.lookup other key) ∧
      (∀ other key, after.resolve other key = scopes.resolve other key) ∧
      ∀ other, (after.snapshot other).map (List.map Prod.fst) = (scopes.snapshot other).map (List.map Prod.fst)) ∧
    (∀ value typeName stored after, scopes.declare handle name value typeName = .ok (stored, after) →
      (∀ other key, key = name ∧ scopes.ReachesFirst name handle other → after.lookup other key = .ok stored) ∧
      (∀ other key, ¬(key = name ∧ scopes.ReachesFirst name handle other) →
        after.lookup other key = scopes.lookup other key) ∧
      after.snapshot handle = (scopes.snapshot handle).map (· ++ [(name, stored)]) ∧
      ∀ other, other ≠ handle → after.snapshot other = scopes.snapshot other) ∧
    (∀ parent other key, other < scopes.size →
      (scopes.opened parent).lookup other key = scopes.lookup other key) ∧
    (scopes.opened (some handle)).resolve scopes.size name = scopes.resolve handle name ∧
    (scopes.opened (some handle)).lookup scopes.size name = scopes.lookup handle name ∧
    (∀ parent, (scopes.opened parent).released scopes.size = scopes) ∧
    ∀ state : State, state.scopes = scopes → state.current = handle → ∀ value typeName failure final,
      ((Machine.declareIn handle name value typeName).run state = .error failure final ↔
        scopes.declare handle name value typeName = .error failure ∧ final = state) ∧
      (((Slot.binding handle name).write value).run state = .error failure final ↔
        scopes.assign handle name value = .error failure ∧ final = state) ∧
      ((Machine.lookup name).run state = .error failure final ↔
        scopes.lookup handle name = .error failure ∧ final = state) ∧
      ((Slot.ofName name).run state = .error failure final ↔
        scopes.resolve handle name = .error failure ∧ final = state) := by
  refine ⟨?assigned, ?declared, ?opened, resolve_new nested name inside, lookup_new nested name inside,
    released_opened scopes, ?failed⟩
  case assigned =>
    intro value stored after assigned
    refine ⟨?_, fun other key apart => lookup_assign_of_other assigned apart, resolve_assign assigned, fun other => ?_⟩
    · rintro other key ⟨rfl, same⟩
      exact lookup_assign_of_same assigned same
    · rw [map_names_snapshot, map_names_snapshot, shape?_assign assigned]
  case declared =>
    intro value typeName stored after declared
    refine ⟨?_, fun other key apart => lookup_declare_of_other nested declared apart, ?_, fun other apart => ?_⟩
    · rintro other key ⟨rfl, first⟩
      exact lookup_declare_of_first nested declared first
    · rw [snapshot_declare declared, if_pos rfl]
    · rw [snapshot_declare declared, if_neg apart]
  case opened => exact fun parent other key existing => lookup_opened nested parent key existing
  case failed =>
    rintro state rfl rfl value typeName failure final
    exact ⟨Machine.run_declareIn_eq_error, Machine.run_write_binding_eq_error, Machine.run_lookup_eq_error,
      Machine.run_ofName_eq_error⟩

/-- Three scopes one inside the other, of which the outermost and the innermost bind `x`. -/
def Scopes.layered : Scopes :=
  { records :=
      #[{ parent := none, bindings := [{ name := "x", value := .int 1, typeName := some "int" }] },
        { parent := some 0, bindings := [] },
        { parent := some 1, bindings := [{ name := "x", value := .int 2, typeName := some "int" }] }] }

/-- What is assigned to `x` from the middle is seen from the outermost scope and not from the innermost; what is
declared there is seen from neither. -/
theorem Scopes.layered_changes_seen :
    layered.Nested ∧ 1 < layered.size ∧
      (∃ after, layered.assign 1 "x" (.char 'a') = .ok (.int 97, after) ∧ after.lookup 0 "x" = .ok (.int 97) ∧
        after.lookup 2 "x" = layered.lookup 2 "x") ∧
      (∃ after, layered.declare 1 "x" (.int 98) (some "char") = .ok (.char 'b', after) ∧
        after.lookup 1 "x" = .ok (.char 'b') ∧ after.lookup 0 "x" = layered.lookup 0 "x" ∧
        after.lookup 2 "x" = layered.lookup 2 "x") := by
  have nested : layered.Nested := by
    intro handle scope parent found around
    match handle with
    | 0 =>
        cases found
        cases around
    | 1 | 2 =>
        cases found
        cases around
        decide
    | handle + 3 => cases found
  have inside : 1 < layered.size := by decide
  obtain ⟨assigning, declaring, -⟩ := changes_seen nested inside "x"
  have assigned : layered.assign 1 "x" (.char 'a') =
      .ok (.int 97, layered.replaced 0 { parent := none, bindings := [⟨"x", .int 97, some "int"⟩] }) := by decide
  have declared : layered.declare 1 "x" (.int 98) (some "char") =
      .ok (.char 'b', layered.replaced 1 { parent := some 0, bindings := [⟨"x", .char 'b', some "char"⟩] }) := by decide
  obtain ⟨seen, others, -⟩ := assigning _ _ _ assigned
  obtain ⟨seenFirst, otherwise, -⟩ := declaring _ _ _ _ declared
  exact ⟨nested, inside, ⟨_, assigned, seen 0 "x" (by decide), others 2 "x" (by decide)⟩,
    ⟨_, declared, seenFirst 1 "x" (by decide), otherwise 0 "x" (by decide), otherwise 2 "x" (by decide)⟩⟩

end Stepwise
