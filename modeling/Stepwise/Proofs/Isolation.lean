import Stepwise.Proofs.Coupling.Run
import Stepwise.Proofs.Nesting

/-!
# Calls are isolated from the locals of their caller

A call looks at the global scope and at the scopes that it opens itself, and the initialisers of an object look at the
global scope only. The scopes of the caller lie in the same arena, though, and the handles of scopes that were closed
are used again. What keeps a call away from them is that every scope it opens lies inside the global one or inside
another of its own, and that it closes none but its own.

So two calls can be run side by side that see different scopes of their callers. They agree on the global scope and on
all that were opened since, and the scopes of the callers stay as they were.
-/

namespace Stepwise

set_option autoImplicit false

/-- The states differ at most in what the scopes other than the global one hold. -/
structure State.SameButLocals (one two : State) : Prop where
  rest : two = { one with scopes := two.scopes }
  size : two.scopes.size = one.scopes.size
  global : two.scopes.get? globalScope = one.scopes.get? globalScope

/-- Two endings with the same result or the same failure, in states that differ at most in such scopes. -/
def Ending.SameButLocals {α : Type} : Ending α → Ending α → Prop
  | .ok first one, .ok second two => second = first ∧ one.SameButLocals two
  | .error first one, .error second two => second = first ∧ one.SameButLocals two
  | _, _ => False

/-- A computation that neither changes a scope other than the global one nor depends on what they hold. -/
structure Machine.Isolated {α : Type} (computation : Machine α) (start : State) : Prop where
  untouched : ∀ result final, computation.run start = .ok result final →
    ∀ handle, handle ≠ globalScope → final.scopes.get? handle = start.scopes.get? handle
  unseen : ∀ other, start.SameButLocals other → (computation.run start).SameButLocals (computation.run other)

/-- The scope is the global one or was opened since there were those of the caller. -/
def Scopes.Since (caller : Scopes) (handle : Nat) : Prop :=
  handle = globalScope ∨ caller.size ≤ handle

/-- Two arenas that agree on the global scope and on the scopes opened since there were those of the callers. -/
structure Scopes.Apart (caller other one two : Scopes) : Prop where
  size : two.size = one.size
  older : caller.size ≤ one.size
  same : ∀ handle, caller.Since handle → two.get? handle = one.get? handle
  kept : ∀ handle, handle ≠ globalScope → handle < caller.size →
    one.get? handle = caller.get? handle ∧ two.get? handle = other.get? handle
  /-- The scope around one of these scopes is one of them. -/
  inside : ∀ handle scope parent, caller.Since handle → one.get? handle = some scope →
    scope.parent = some parent → caller.Since parent

namespace Scopes.Apart

variable {caller other one two : Scopes} {handle : Nat}

theorem refl (size : other.size = caller.size) (global : other.get? globalScope = caller.get? globalScope)
    (nested : caller.Nested) : Apart caller other caller other where
  size := size
  older := Nat.le_refl _
  same := by
    intro handle seen
    rcases seen with rfl | beyond
    · exact global
    · rw [get?_eq_none beyond, get?_eq_none (by omega)]
  kept _ _ _ := ⟨rfl, rfl⟩
  inside := by
    intro handle scope parent seen found lies
    have older := nested handle scope parent found lies
    have inside := lt_size_of_get? found
    rcases seen with rfl | beyond
    · exact absurd older (Nat.not_lt_zero _)
    · omega

theorem resolveWithin (apart : Apart caller other one two) (name : String) (bound : Nat)
    (seen : caller.Since handle) :
    two.resolveWithin name bound handle = one.resolveWithin name bound handle ∧
      ∀ owner, one.resolveWithin name bound handle = .ok owner → caller.Since owner := by
  induction bound generalizing handle with
  | zero => exact ⟨rfl, by rintro _ ⟨⟩⟩
  | succ bound ih =>
      simp only [Scopes.resolveWithin, apart.same handle seen]
      cases found : one.get? handle with
      | none => exact ⟨rfl, by rintro _ ⟨⟩⟩
      | some scope =>
          dsimp only
          by_cases binds : (scope.find? name).isSome
          · simp only [if_pos binds]
            refine ⟨trivial, ?_⟩
            intro owner resolved
            cases resolved
            exact seen
          · simp only [if_neg binds]
            cases around : scope.parent with
            | none => exact ⟨rfl, by rintro _ ⟨⟩⟩
            | some parent => exact ih (apart.inside handle scope parent seen found around)

theorem resolve (apart : Apart caller other one two) (name : String)
    (seen : caller.Since handle) : two.resolve handle name = one.resolve handle name := by
  rw [Scopes.resolve, Scopes.resolve, apart.size]
  exact (apart.resolveWithin name _ seen).1

theorem binding (apart : Apart caller other one two) (name : String)
    (seen : caller.Since handle) : two.binding handle name = one.binding handle name := by
  rw [Scopes.binding, Scopes.binding, apart.resolve name seen]
  cases resolved : one.resolve handle name with
  | error failure => rfl
  | ok owner =>
      dsimp only
      rw [apart.same owner ((apart.resolveWithin name _ seen).2 owner resolved)]

theorem lookup (apart : Apart caller other one two) (name : String)
    (seen : caller.Since handle) : two.lookup handle name = one.lookup handle name := by
  rw [Scopes.lookup, Scopes.lookup, apart.binding name seen]

theorem replaced (apart : Apart caller other one two) {before after : Scope}
    (seen : caller.Since handle) (found : one.get? handle = some before)
    (around : after.parent = before.parent) :
    Apart caller other (one.replaced handle after) (two.replaced handle after) where
  size := by simp only [size_replaced, apart.size]
  older := by
    rw [size_replaced]
    exact apart.older
  same := by
    intro target seenTarget
    rw [get?_replaced, get?_replaced, apart.size, apart.same target seenTarget]
  kept := by
    intro target local_ older
    have different : handle ≠ target := by
      rintro rfl
      rcases seen with global | opened
      · exact local_ global
      · omega
    rw [get?_replaced, get?_replaced, if_neg different, if_neg different]
    exact apart.kept target local_ older
  inside := by
    intro target scope parent seenTarget there lies
    rcases get?_replaced_cases there with ⟨rfl, rfl⟩ | old
    · rw [around] at lies
      exact apart.inside target before parent seen found lies
    · exact apart.inside target scope parent seenTarget old lies

theorem opened (apart : Apart caller other one two) {parent : Nat}
    (seen : caller.Since parent) :
    Apart caller other (one.opened (some parent)) (two.opened (some parent)) where
  size := by simp only [size_opened, apart.size]
  older := by
    have older := apart.older
    rw [size_opened]
    omega
  same := by
    intro target seenTarget
    rw [get?_opened, get?_opened, apart.size, apart.same target seenTarget]
  kept := by
    intro target local_ older
    have below : target ≠ one.size := by
      have opened := apart.older
      omega
    rw [get?_opened, get?_opened, apart.size, if_neg below, if_neg below]
    exact apart.kept target local_ older
  inside := by
    intro target scope around seenTarget there lies
    rw [get?_opened] at there
    split at there
    · cases there
      cases lies
      exact seen
    · exact apart.inside target scope around seenTarget there lies

theorem released (apart : Apart caller other one two) (own : caller.size ≤ handle) :
    Apart caller other (one.released handle) (two.released handle) := by
  by_cases newest : handle + 1 = one.size
  · have newestTwo : handle + 1 = two.size := newest.trans apart.size.symm
    constructor
    · rw [size_released_of_newest _ _ newest, size_released_of_newest _ _ newestTwo]
    · rw [size_released_of_newest _ _ newest]
      exact own
    · intro target seenTarget
      rw [get?_released_of_newest _ _ _ newest, get?_released_of_newest _ _ _ newestTwo, apart.same target seenTarget]
    · intro target local_ older
      have different : target ≠ handle := by omega
      rw [get?_released_of_newest _ _ _ newest, get?_released_of_newest _ _ _ newestTwo, if_neg different,
        if_neg different]
      exact apart.kept target local_ older
    · intro target scope parent seenTarget there lies
      rw [get?_released_of_newest _ _ _ newest] at there
      split at there
      · cases there
      · exact apart.inside target scope parent seenTarget there lies
  · have other : ¬handle + 1 = two.size := by
      rw [apart.size]
      exact newest
    rw [Scopes.released, Scopes.released, if_neg newest, if_neg other]
    exact apart

theorem assign (apart : Apart caller other one two) (name : String) (value : Value)
    (seen : caller.Since handle) :
    Coupling.Rescopes (Apart caller other) (one.assign handle name value) (two.assign handle name value) := by
  rw [Scopes.assign, Scopes.assign, apart.binding name seen]
  cases bound : one.binding handle name with
  | error failure => exact .failed failure
  | ok entry =>
      obtain ⟨owner, scope, found⟩ := entry
      obtain ⟨resolved, present, -⟩ := binding_eq_ok bound
      have seenOwner := (apart.resolveWithin name _ seen).2 owner resolved
      dsimp only
      cases value.coerce found.typeName with
      | error failure => exact .failed failure
      | ok stored => exact .changed (apart.replaced seenOwner present rfl)

theorem declare (apart : Apart caller other one two) (name : String) (value : Value) (typeName : Option String)
    (seen : caller.Since handle) :
    Coupling.Rescopes (Apart caller other) (one.declare handle name value typeName)
      (two.declare handle name value typeName) := by
  rw [Scopes.declare, Scopes.declare, apart.same handle seen]
  cases found : one.get? handle with
  | none => exact .failed _
  | some scope =>
      dsimp only
      split
      · exact .failed _
      · cases value.coerce typeName with
        | error failure => exact .failed failure
        | ok stored => exact .changed (apart.replaced seen found rfl)

end Scopes.Apart

namespace Coupling

def isolation (context : Context) (caller other : Scopes) : Coupling where
  left := context
  right := context
  known _ := True
  agree _ one two := ∃ scopes, two = { one with scopes } ∧ Scopes.Apart caller other one.scopes scopes
  own handle := caller.size ≤ handle
  leads _ _ := True
  failing := State.SameButLocals
  stops _ := False
  leads_refl _ := trivial
  leads_trans _ _ := trivial

variable {context : Context} {caller other : Scopes} {room : Nat} {one two : State}

theorem isolation_sameButLocals (agree : (isolation context caller other).agree room one two) :
    one.SameButLocals two := by
  obtain ⟨scopes, rfl, apart⟩ := agree
  exact ⟨rfl, apart.size, apart.same globalScope (.inl rfl)⟩

theorem isolation_visible {scopes : Scopes} (mode : VariablesMode) (apart : Scopes.Apart caller other one.scopes scopes)
    (seen : caller.Since one.current) :
    State.visible { one with scopes } mode = one.visible mode := by
  cases mode with
  | local_ =>
      simp only [State.visible, State.localVariables]
      rw [apart.same one.current seen]
  | all =>
      simp only [State.visible, State.allVariables, apart.lookup _ seen]

theorem isolation_laws : (isolation context caller other).Laws where
  program := rfl
  leads_of_same _ _ _ := trivial
  leads_noting _ _ := trivial
  failing := isolation_sameButLocals
  current := by
    rintro room one two ⟨scopes, rfl, -⟩
    rfl
  heap := by
    rintro room one two ⟨scopes, rfl, -⟩
    rfl
  classes := by
    rintro room one two ⟨scopes, rfl, -⟩
    rfl
  global _ := rfl
  size := by
    rintro room one two ⟨scopes, rfl, apart⟩
    exact apart.size
  resolve := by
    rintro room one two handle name - ⟨scopes, rfl, apart⟩ seen
    exact congrArg (Except.map fun _ => ()) (apart.resolve name seen)
  lookup := by
    rintro room one two handle name - ⟨scopes, rfl, apart⟩ seen
    exact apart.lookup name seen
  assigned := by
    rintro room one two handle name value - ⟨scopes, rfl, apart⟩ seen
    apply (apart.assign name value seen).imp
    exact fun first second further => ⟨second, rfl, further⟩
  declared := by
    rintro room one two handle name value typeName ⟨scopes, rfl, apart⟩ seen
    apply (apart.declare name value (some typeName) seen).imp
    intro first second further
    simp only [State.noting_scopes]
    exact ⟨second, rfl, further⟩
  classDeclared := by
    rintro room one two decl ⟨scopes, rfl, apart⟩ member
    apply (apart.declare decl.name _ none (.inl rfl)).imp
    exact fun first second further => ⟨second, rfl, further⟩
  atLine := by
    rintro room one two line ⟨scopes, rfl, apart⟩
    exact ⟨scopes, rfl, apart⟩
  reheaped := by
    rintro room one two heap ⟨scopes, rfl, apart⟩
    exact ⟨scopes, rfl, apart⟩
  opened := by
    rintro room one two parent ⟨scopes, rfl, apart⟩ seen
    exact ⟨apart.older, _, rfl, apart.opened seen⟩
  entered := by
    rintro room one two handle ⟨scopes, rfl, apart⟩
    exact ⟨scopes, rfl, apart⟩
  closed := by
    rintro room one two handle outer ⟨scopes, rfl, apart⟩ own
    exact ⟨_, rfl, apart.released own⟩
  pushed := by
    rintro room one two frame ⟨scopes, rfl, apart⟩
    exact ⟨scopes, rfl, apart⟩
  popped := by
    rintro room before beside one two - ⟨scopes, rfl, apart⟩
    exact ⟨scopes, rfl, apart⟩
  record := by
    intro room one two line console event ready
    have failing := isolation_sameButLocals ready.agree
    obtain ⟨scopes, rfl, apart⟩ := ready.agree
    have recorded : State.recorded context.options line console event { one with scopes } =
        { one.recorded context.options line console event with scopes } := by
      simp only [State.recorded, isolation_visible _ apart ready.current]
    exact runs_record line console event rfl rfl failing trivial
      ⟨⟨⟨scopes, recorded, apart⟩, ready.current⟩, trivial⟩
  tick := by
    rintro room one two line ready
    obtain ⟨scopes, rfl, apart⟩ := ready.agree
    have counted : (isolation context caller other).agree room { one with iterations := one.iterations + 1 }
        { one with scopes, iterations := one.iterations + 1 } := ⟨scopes, rfl, apart⟩
    exact runs_tick line rfl rfl (isolation_sameButLocals counted) trivial ⟨⟨counted, ready.current⟩, trivial⟩

theorem isolation_supports (room : Nat) :
    (isolation context caller other).Supports room (.within context room) (.within context room) :=
  supports_within_of_limit isolation_laws rfl room

end Coupling

section Isolated

variable {context : Context} {room : Nat} {state : State} {α : Type} {computation : Machine α}

/-- A computation that leaves the scopes balanced, and ends alike whatever the scopes of its caller hold. -/
theorem Machine.isolated_of_runs (placed : state.Placed) (balanced : computation.Balanced state)
    (runs : ∀ caller other one two, (Coupling.isolation context caller other).agree room one two →
      (Coupling.isolation context caller other).Runs one two computation computation fun oneEnd twoEnd _ =>
        (Coupling.isolation context caller other).agree room oneEnd twoEnd ∧ oneEnd.current = one.current) :
    computation.Isolated state where
  untouched result final ended handle local_ := by
    have apart := Scopes.Apart.refl rfl rfl placed.nested
    have alike := runs state.scopes state.scopes state state ⟨_, rfl, apart⟩ fun _ _ => trivial
    rw [ended] at alike
    cases alike with
    | completed finished =>
        obtain ⟨-, ⟨scopes, -, further⟩, -⟩ := finished
        by_cases older : handle < state.scopes.size
        · exact (further.kept handle local_ older).1
        · have size := balanced.size ended
          rw [Scopes.get?_eq_none (by omega), Scopes.get?_eq_none (by omega)]
  unseen other same := by
    have apart := Scopes.Apart.refl same.size same.global placed.nested
    have alike := runs state.scopes other.scopes state other ⟨_, same.rest, apart⟩ fun _ _ => trivial
    generalize computation.run state = one at alike ⊢
    generalize computation.run other = two at alike ⊢
    cases alike with
    | completed finished => exact ⟨rfl, Coupling.isolation_sameButLocals finished.2.1⟩
    | failed agree => exact ⟨rfl, agree⟩
    | stopped stops => exact stops.elim

end Isolated

/-- In every state of a run, a call of a method and the making of an object leave every scope but the global one exactly
as it was. And in any state that differs only in what these scopes hold they yield the same value or fail with the same
failure, in states with the same steps, heap and global scope, and all else but these scopes. -/
theorem calls_isolated (context : Context) (state : State) (reached : context.Reaches state) (room : Nat) :
    (∀ method className arguments line, context.Declares method className →
      ((Calls.within context room).invoke method className arguments line).Isolated state) ∧
    (∀ decl, context.program.class? decl.name = some decl →
      ((Calls.within context room).instantiate decl).Isolated state) := by
  have keeps : context.KeepsScopes room state := reached.placed.keepsScopes room
  constructor
  · intro method className arguments line declared
    apply Machine.isolated_of_runs reached.placed (keeps.call method className arguments line declared)
    intro caller other one two agree
    exact Coupling.runs_invoke Coupling.isolation_laws (fun less _ => Coupling.isolation_supports less) method className
      arguments line agree
  · intro decl found
    apply Machine.isolated_of_runs reached.placed (keeps.creation decl found)
    intro caller other one two agree
    exact Coupling.runs_instantiate Coupling.isolation_laws (fun less _ => Coupling.isolation_supports less) decl agree

/-- A method with a variable of its own, of the same name as one of its caller's. -/
def Method.seven : Method where
  line := 2
  returnType := "int"
  name := "seven"
  params := []
  body :=
    [.declare { line := 3, typeName := "int", name := "count", value := some (.int 3 7), isStatic := false },
      .return_ 4 (some (.name 4 "count"))]

/-- A program whose run stops in `main`, where a variable is declared. -/
def Context.ofCaller : Context where
  options := { maxSteps := 10, mode := .all }
  program :=
    { classes :=
        [{ line := 1, name := "Main",
           body :=
             [.method .seven,
               .method
                 { line := 5, returnType := "void", name := "main", params := [],
                   body :=
                     [.declare
                       { line := 6, typeName := "int", name := "count", value := some (.int 6 1), isStatic := false },
                       .evaluate 7 (.name 7 "missing")] }] }] }

theorem callee_variable_isolated :
    ∃ state, Context.ofCaller.Reaches state ∧
      state.scopes.get? 1 =
        some { parent := some 0, bindings := [{ name := "count", value := .int 1, typeName := some "int" }] } ∧
      (∃ final, ((Calls.within Context.ofCaller 1).invoke .seven "Main" [] 7).run state = .ok (.int 7) final) ∧
      ((Calls.within Context.ofCaller 1).invoke .seven "Main" [] 7).Isolated state := by
  have reached := Context.ofCaller.execute.passes_ending State.initial
  have declared : Context.ofCaller.Declares .seven "Main" := ⟨_, "seven", rfl, rfl⟩
  have binding : (Context.ofCaller.execute.run State.initial).state.scopes.get? 1 =
      some { parent := some 0, bindings := [{ name := "count", value := .int 1, typeName := some "int" }] } := by
    decide +kernel
  have yields : (match ((Calls.within Context.ofCaller 1).invoke .seven "Main" [] 7).run
      (Context.ofCaller.execute.run State.initial).state with
      | .ok value _ => some value
      | .error _ _ => none) = some (.int 7) := by decide +kernel
  refine ⟨_, reached, binding, ?_, (calls_isolated Context.ofCaller _ reached 1).1 _ _ _ _ declared⟩
  generalize ((Calls.within Context.ofCaller 1).invoke .seven "Main" [] 7).run _ = ending at yields
  cases ending with
  | ok value final =>
      cases yields
      exact ⟨final, rfl⟩
  | error failure final => cases yields

end Stepwise
