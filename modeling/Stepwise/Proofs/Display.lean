import Stepwise.Proofs.Coupling.Run
import Stepwise.Proofs.Nesting
import Stepwise.Proofs.Storage

/-!
# The mode of variables only affects what is displayed

A step shows the variables of the innermost scope or every name declared so far, and nothing else depends on the mode.
So the runs in the two modes are in the same state but for the variables that their steps show, and corresponding
steps picture one and the same state.

What the innermost scope binds is among the names declared so far, since a variable is noted as soon as it is declared;
only the classes are bound without being noted. So every variable that the one mode shows, the other shows as well,
with the value that the innermost scope has for it.
-/

namespace Stepwise

set_option autoImplicit false

def Program.NamesClass (program : Program) (name : String) : Prop :=
  ∃ decl ∈ program.classes, decl.name = name

/-- Whatever a scope binds was noted, unless it has the name of a class. -/
def State.Noted (program : Program) (state : State) : Prop :=
  ∀ handle scope, state.scopes.get? handle = some scope → ∀ binding ∈ scope.bindings,
    binding.name ∈ state.declared ∨ program.NamesClass binding.name

def State.denotesClass (state : State) (name : String) : Bool :=
  match state.scopes.lookup state.current name with
  | .ok value => value.isClass
  | .error _ => false

/-- Steps that agree in all but the variables they show. -/
structure Step.SameButVariables (one two : Step) : Prop where
  line : two.line = one.line
  heap : two.heap = one.heap
  frames : two.frames = one.frames
  console : two.console = one.console
  event : two.event = one.event

/-- Two steps that picture a state, one in each mode. -/
structure Step.Pictures (one two : Step) (state : State) : Prop where
  same : one.SameButVariables two
  heap : one.heap = state.heap
  frames : one.frames = state.frames
  locals : one.bindings = state.localVariables
  all : two.bindings = state.allVariables

namespace State

variable {state : State} {name : String} {value : Option Value}

theorem mem_localVariables (shown : (name, value) ∈ state.localVariables) :
    ∃ scope binding, state.scopes.get? state.current = some scope ∧ binding ∈ scope.bindings ∧
      binding.name = name ∧ value = some binding.value ∧ binding.value.isClass = false := by
  unfold localVariables at shown
  split at shown
  · simp at shown
  · next scope found =>
      obtain ⟨binding, kept, same⟩ := List.mem_map.mp shown
      obtain ⟨member, plain⟩ := List.mem_filter.mp kept
      cases same
      exact ⟨scope, binding, found, member, rfl, rfl, by simpa using plain⟩

theorem mem_allVariables (shown : (name, value) ∈ state.allVariables) :
    value = none ∨ ∃ current, value = some current ∧ current.isClass = false := by
  obtain ⟨noted, member, same⟩ := List.mem_filterMap.mp shown
  split at same
  · next current found =>
      split at same
      · cases same
      · next plain =>
          cases same
          exact .inr ⟨current, rfl, by simpa using plain⟩
  · cases same
    exact .inl rfl

theorem lookup_current {scope : Scope} {binding : Binding} (found : state.scopes.get? state.current = some scope)
    (member : binding ∈ scope.bindings) (distinct : (scope.bindings.map Binding.name).Nodup) :
    state.scopes.lookup state.current binding.name = .ok binding.value := by
  have binds : (scope.find? binding.name).isSome := List.find?_isSome.mpr ⟨binding, member, by simp⟩
  obtain ⟨entry, there⟩ := Option.isSome_iff_exists.mp binds
  obtain ⟨present, named⟩ := Scope.mem_of_find? there
  have only : entry = binding := List.inj_on_of_nodup_map distinct present member named
  have resolved : state.scopes.resolve state.current binding.name = .ok state.current := by
    simp only [Scopes.resolve, Scopes.resolveWithin, found, binds, if_true]
  simp only [Scopes.lookup, Scopes.binding, resolved, found, there, only]

theorem mem_allVariables_of_lookup {current : Value} (noted : name ∈ state.declared)
    (found : state.scopes.lookup state.current name = .ok current) (plain : current.isClass = false) :
    (name, some current) ∈ state.allVariables := by
  apply List.mem_filterMap.mpr
  refine ⟨name, noted, ?_⟩
  simp [found, plain]

/-- What the innermost scope shows is among all that is shown, unless it has the name of a class. -/
theorem mem_allVariables_of_local {program : Program} (noted : state.Noted program) (typed : state.Typed)
    (shown : (name, value) ∈ state.localVariables) (variable_ : ¬program.NamesClass name) :
    (name, value) ∈ state.allVariables := by
  obtain ⟨scope, binding, found, member, rfl, rfl, plain⟩ := mem_localVariables shown
  have distinct := (typed.scopes state.current scope found).distinct
  have there : binding.name ∈ state.declared :=
    (noted state.current scope found binding member).resolve_right variable_
  exact mem_allVariables_of_lookup there (lookup_current found member distinct) plain

/-- Of the names noted so far, those are left out that denote a class. -/
theorem names_allVariables (state : State) :
    state.allVariables.map Prod.fst = state.declared.filter fun name => !state.denotesClass name := by
  unfold allVariables
  induction state.declared with
  | nil => rfl
  | cons name names ih =>
      rw [List.filterMap_cons, List.filter_cons]
      cases found : state.scopes.lookup state.current name with
      | error failure => simpa [denotesClass, found] using ih
      | ok value =>
          cases plain : value.isClass with
          | true => simpa [denotesClass, found, plain] using ih
          | false => simpa [denotesClass, found, plain] using ih

end State

namespace State.Noted

variable {program : Program} {state : State}

theorem initial (program : Program) : State.initial.Noted program := by
  intro handle scope found binding member
  rw [State.eq_of_initial found] at member
  simp at member

theorem replaced (noted : state.Noted program) {handle : Nat} {scope : Scope}
    (names : ∀ binding ∈ scope.bindings, binding.name ∈ state.declared ∨ program.NamesClass binding.name) :
    Noted program { state with scopes := state.scopes.replaced handle scope } :=
  Scopes.forall_replaced noted names

theorem assigned (noted : state.Noted program) {handle : Nat} {name : String} {value stored : Value} {scopes : Scopes}
    (assigned : state.scopes.assign handle name value = .ok (stored, scopes)) :
    Noted program { state with scopes } := by
  obtain ⟨owner, scope, found, -, present, -, -, rfl⟩ := Scopes.assign_eq_ok assigned
  apply noted.replaced
  intro binding member
  rcases Scope.mem_store member with before | ⟨before, there, -, rfl⟩
  · exact noted owner scope present binding before
  · exact noted owner scope present before there

theorem declared (noted : state.Noted program) {handle : Nat} {name : String} {value stored : Value} {scopes : Scopes}
    {typeName : Option String} (declared : state.scopes.declare handle name value typeName = .ok (stored, scopes))
    (known : name ∈ state.declared ∨ program.NamesClass name) : Noted program { state with scopes } := by
  obtain ⟨scope, found, -, -, rfl⟩ := Scopes.declare_eq_ok declared
  apply noted.replaced
  intro binding member
  rcases List.mem_append.mp member with before | this
  · exact noted handle scope found binding before
  · rw [List.mem_singleton.mp this]
    exact known

theorem opened (noted : state.Noted program) (parent : Nat) :
    Noted program { state with scopes := state.scopes.opened (some parent) } := by
  apply Scopes.forall_opened noted
  intro binding member
  simp at member

theorem released (noted : state.Noted program) (handle : Nat) :
    Noted program { state with scopes := state.scopes.released handle } := by
  by_cases newest : handle + 1 = state.scopes.size
  · exact Scopes.forall_released noted newest
  · rw [Scopes.released, if_neg newest]
    exact noted

end State.Noted

namespace State

theorem mem_noting (name : String) (state : State) : name ∈ (state.noting name).declared := by
  unfold noting
  split
  · next there => simpa using there
  · simp

theorem prefix_noting (name : String) (state : State) : state.declared <+: (state.noting name).declared := by
  unfold noting
  split
  · exact List.prefix_refl _
  · exact List.prefix_append _ _

theorem nodup_noting {state : State} (distinct : state.declared.Nodup) (name : String) :
    (state.noting name).declared.Nodup := by
  unfold noting
  split
  · exact distinct
  · next absent =>
      have fresh : name ∉ state.declared := by simpa using absent
      have appended := distinct.concat fresh
      rw [List.concat_eq_append] at appended
      exact appended

theorem Noted.noting {program : Program} {state : State} (noted : state.Noted program) (name : String) :
    (state.noting name).Noted program := by
  intro handle scope found binding member
  rw [noting_eq] at found
  rcases noted handle scope found binding member with there | names
  · exact .inl ((prefix_noting name state).subset there)
  · exact .inr names

end State

/-- The steps of a state and those of the other mode picture the same states of the run. -/
structure State.Mirrored (context : Context) (state : State) (steps : Array Step) : Prop where
  noted : state.Noted context.program
  distinct : state.declared.Nodup
  count : steps.size = state.steps.size
  pictures : ∀ (index : Nat) (one two : Step), state.steps[index]? = some one → steps[index]? = some two →
    ∃ moment, context.Reaches moment ∧ moment.steps.size = index ∧ moment.Noted context.program ∧
      one.Pictures two moment

theorem State.Mirrored.of_same {context : Context} {state after : State} {steps : Array Step}
    (mirrored : state.Mirrored context steps) (noted : after.Noted context.program) (distinct : after.declared.Nodup)
    (same : after.steps = state.steps) : after.Mirrored context steps := by
  refine ⟨noted, distinct, ?_, ?_⟩
  · rw [same]
    exact mirrored.count
  · rw [same]
    exact mirrored.pictures

theorem State.Mirrored.recorded {context : Context} {state : State} {steps : Array Step} {one two : Step}
    (mirrored : state.Mirrored context steps) (reached : context.Reaches state) (pictures : one.Pictures two state) :
    State.Mirrored context { state with steps := state.steps.push one } (steps.push two) := by
  refine ⟨mirrored.noted, mirrored.distinct, ?_, ?_⟩
  · simp only [Array.size_push, mirrored.count]
  · intro index first second foundFirst foundSecond
    rw [Array.getElem?_push] at foundFirst foundSecond
    rw [mirrored.count] at foundSecond
    by_cases last : index = state.steps.size
    · rw [if_pos last] at foundFirst foundSecond
      cases foundFirst
      cases foundSecond
      exact ⟨state, reached, last.symm, mirrored.noted, pictures⟩
    · rw [if_neg last] at foundFirst foundSecond
      exact mirrored.pictures index first second foundFirst foundSecond

namespace Coupling

def modes (program : Program) (limit : Nat) : Coupling where
  left := ⟨⟨limit, .local_⟩, program⟩
  right := ⟨⟨limit, .all⟩, program⟩
  known state := Context.Reaches ⟨⟨limit, .local_⟩, program⟩ state
  agree _ one two := ∃ steps, two = { one with steps } ∧ one.Mirrored ⟨⟨limit, .local_⟩, program⟩ steps
  own _ := True
  leads before after := before.declared <+: after.declared
  failing one two := two.line = one.line
  stops _ := False
  leads_refl _ := List.prefix_refl _
  leads_trans one two := one.trans two

variable {program : Program} {limit room : Nat} {one two : State}

section Agreement

variable (agrees : (modes program limit).agree room one two)
include agrees

theorem modes_assigned {handle : Nat} (name : String) (value : Value) :
    Rescopes (fun first second => (modes program limit).agree room { one with scopes := first } { two with scopes := second })
      (one.scopes.assign handle name value) (two.scopes.assign handle name value) := by
  obtain ⟨steps, rfl, mirrored⟩ := agrees
  apply Rescopes.same
  intro stored scopes assigned
  exact ⟨steps, rfl, mirrored.of_same (mirrored.noted.assigned assigned) mirrored.distinct rfl⟩

theorem modes_declared {handle : Nat} (name : String) (value : Value) (typeName : String) :
    Rescopes
      (fun first second =>
        (modes program limit).agree room (State.noting name { one with scopes := first })
          (State.noting name { two with scopes := second }))
      (one.scopes.declare handle name value (some typeName)) (two.scopes.declare handle name value (some typeName)) := by
  obtain ⟨steps, rfl, mirrored⟩ := agrees
  apply Rescopes.same
  intro stored scopes declared
  rw [← State.scopes_noting name one] at declared
  have noted := (mirrored.noted.noting name).declared declared (.inl (State.mem_noting name one))
  refine ⟨steps, State.noting_steps name { one with scopes } steps, ?_⟩
  rw [State.noting_scopes]
  exact mirrored.of_same noted (State.nodup_noting mirrored.distinct name) (State.steps_noting name one)

theorem modes_classDeclared {decl : ClassDecl} (member : decl ∈ program.classes) :
    Rescopes (fun first second => (modes program limit).agree room { one with scopes := first } { two with scopes := second })
      (one.scopes.declare globalScope decl.name (.class_ decl.name decl.methodNames) none)
      (two.scopes.declare globalScope decl.name (.class_ decl.name decl.methodNames) none) := by
  obtain ⟨steps, rfl, mirrored⟩ := agrees
  apply Rescopes.same
  intro stored scopes declared
  have noted := mirrored.noted.declared declared (.inr ⟨decl, member, rfl⟩)
  exact ⟨steps, rfl, mirrored.of_same noted mirrored.distinct rfl⟩

end Agreement

/-- Both modes record at the same moment, each the variables that it shows. -/
theorem modes_record (line : Nat) (console : Option Text) (event : Option Event)
    (ready : (modes program limit).Ready room one two) :
    (modes program limit).Couples room one two (Machine.record ⟨limit, .local_⟩ line console event)
      (Machine.record ⟨limit, .all⟩ line console event) fun _ => True := by
  apply Runs.given
  intro reached
  obtain ⟨steps, rfl, mirrored⟩ := ready.agree
  have pictures : Step.Pictures ⟨line, one.localVariables, one.heap, one.frames, console, event⟩
      ⟨line, one.allVariables, one.heap, one.frames, console, event⟩ one :=
    ⟨⟨rfl, rfl, rfl, rfl, rfl⟩, rfl, rfl, rfl, rfl⟩
  have recorded := mirrored.recorded reached pictures
  exact runs_record line console event rfl mirrored.count rfl (List.prefix_refl _)
    ⟨⟨⟨_, rfl, recorded⟩, ready.current⟩, trivial⟩

theorem modes_tick (line : Nat) (ready : (modes program limit).Ready room one two) :
    (modes program limit).Couples room one two (Machine.tick ⟨limit, .local_⟩ line) (Machine.tick ⟨limit, .all⟩ line)
      fun _ => True := by
  obtain ⟨steps, rfl, mirrored⟩ := ready.agree
  have counted : (modes program limit).agree room { one with iterations := one.iterations + 1 }
      { one with steps, iterations := one.iterations + 1 } :=
    ⟨steps, rfl, mirrored.of_same mirrored.noted mirrored.distinct rfl⟩
  exact runs_tick line rfl rfl rfl (List.prefix_refl _) ⟨⟨counted, ready.current⟩, trivial⟩

theorem modes_laws : (modes program limit).Laws where
  program := rfl
  leads_of_same {before after} same _ _ := by
    change before.declared <+: after.declared
    exact same.symm ▸ List.prefix_refl before.declared
  leads_noting := State.prefix_noting
  failing := by
    rintro room one two ⟨steps, rfl, -⟩
    rfl
  current := by
    rintro room one two ⟨steps, rfl, -⟩
    rfl
  heap := by
    rintro room one two ⟨steps, rfl, -⟩
    rfl
  classes := by
    rintro room one two ⟨steps, rfl, -⟩
    rfl
  global _ := rfl
  size := by
    rintro room one two ⟨steps, rfl, -⟩
    rfl
  resolve := by
    rintro room one two handle name - ⟨steps, rfl, -⟩ -
    rfl
  lookup := by
    rintro room one two handle name - ⟨steps, rfl, -⟩ -
    rfl
  assigned _ _ _ agrees _ := modes_assigned agrees _ _
  declared _ _ _ agrees _ := modes_declared agrees _ _ _
  classDeclared agrees member := modes_classDeclared agrees member
  atLine := by
    rintro room one two line ⟨steps, rfl, mirrored⟩
    exact ⟨steps, rfl, mirrored.of_same mirrored.noted mirrored.distinct rfl⟩
  reheaped := by
    rintro room one two heap ⟨steps, rfl, mirrored⟩
    exact ⟨steps, rfl, mirrored.of_same mirrored.noted mirrored.distinct rfl⟩
  opened := by
    rintro room one two parent ⟨steps, rfl, mirrored⟩ -
    exact ⟨trivial, steps, rfl, mirrored.of_same (mirrored.noted.opened parent) mirrored.distinct rfl⟩
  entered := by
    rintro room one two handle ⟨steps, rfl, mirrored⟩
    exact ⟨steps, rfl, mirrored.of_same mirrored.noted mirrored.distinct rfl⟩
  closed := by
    rintro room one two handle outer ⟨steps, rfl, mirrored⟩ -
    exact ⟨steps, rfl, mirrored.of_same (mirrored.noted.released handle) mirrored.distinct rfl⟩
  pushed := by
    rintro room one two frame ⟨steps, rfl, mirrored⟩
    exact ⟨steps, rfl, mirrored.of_same mirrored.noted mirrored.distinct rfl⟩
  popped := by
    rintro room before beside one two - ⟨steps, rfl, mirrored⟩
    exact ⟨steps, rfl, mirrored.of_same mirrored.noted mirrored.distinct rfl⟩
  record := modes_record
  tick := modes_tick

theorem modes_initial : (modes program limit).agree maxCallDepth State.initial State.initial := by
  refine ⟨#[], rfl, State.Noted.initial program, List.nodup_nil, rfl, ?_⟩
  intro index one two found
  simp [State.initial] at found

theorem modes_runs (program : Program) (limit : Nat) :
    (modes program limit).Runs State.initial State.initial (Context.execute ⟨⟨limit, .local_⟩, program⟩)
      (Context.execute ⟨⟨limit, .all⟩, program⟩) fun oneEnd twoEnd _ =>
        (modes program limit).agree maxCallDepth oneEnd twoEnd := by
  rw [← Context.executeBy_within, ← Context.executeBy_within]
  exact runs_executeBy modes_laws (supports_within_of_limit modes_laws rfl _) modes_initial rfl

end Coupling

/-- What two corresponding steps show: the same but for the variables; every variable of the innermost scope also among
all names, unless it has the name of a class; no class in either mode; and of the names, which are given in their order,
those that were declared at the moment pictured, among them all that are bound then, and that do not denote a class at
that moment. -/
structure Step.Corresponds (context : Context) (names : List String) (index : Nat) (one two : Step) : Prop where
  same : one.SameButVariables two
  local_ : ∀ entry ∈ one.bindings, ¬context.program.NamesClass entry.1 → entry ∈ two.bindings
  plain : ∀ name value, (name, some value) ∈ one.bindings ∨ (name, some value) ∈ two.bindings → value.isClass = false
  sublist : (two.bindings.map Prod.fst).Sublist names
  keys : ∃ moment, context.Reaches moment ∧ moment.steps.size = index ∧ one.Pictures two moment ∧
    moment.Noted context.program ∧ moment.declared <+: names ∧
    two.bindings.map Prod.fst = moment.declared.filter fun name => !moment.denotesClass name

theorem Step.Pictures.corresponds {context : Context} {names : List String} {one two : Step} {moment : State}
    (pictures : one.Pictures two moment) (reached : context.Reaches moment) (noted : moment.Noted context.program)
    (inside : moment.declared <+: names) : Step.Corresponds context names moment.steps.size one two where
  same := pictures.same
  local_ := by
    have typed := (((State.invariant_typed context).runs State.initial_typed).passing moment reached).2
    intro entry shown variable_
    rw [pictures.locals] at shown
    rw [pictures.all]
    exact State.mem_allVariables_of_local noted typed shown variable_
  plain := by
    intro name value shown
    rw [pictures.locals, pictures.all] at shown
    rcases shown with shown | shown
    · obtain ⟨scope, binding, -, -, -, same, plain⟩ := State.mem_localVariables shown
      cases same
      exact plain
    · rcases State.mem_allVariables shown with impossible | ⟨current, same, plain⟩
      · cases impossible
      · cases same
        exact plain
  sublist := by
    rw [pictures.all, moment.names_allVariables]
    exact List.filter_sublist.trans inside.sublist
  keys := by
    refine ⟨moment, reached, rfl, pictures, noted, inside, ?_⟩
    rw [pictures.all]
    exact moment.names_allVariables

/-- The runs of a program in the two modes fail with the same failure on the same line, or both give a trace, with as
many steps, and corresponding steps differ in nothing but the variables they show. There is one list of names, those
declared in the run in the order of their first declarations, such that the names of every step in the mode that shows
all are the names declared until then, in this order, less those that denote a class at that moment. -/
theorem mode_affects_display_only (program : Program) (limit : Nat) :
    (∃ failure, program.trace ⟨limit, .local_⟩ = .error failure ∧ program.trace ⟨limit, .all⟩ = .error failure) ∨
    ∃ steps others names, program.trace ⟨limit, .local_⟩ = .ok steps ∧ program.trace ⟨limit, .all⟩ = .ok others ∧
      others.length = steps.length ∧ names.Nodup ∧
      (∀ state, Context.Reaches ⟨⟨limit, .local_⟩, program⟩ state → state.declared <+: names) ∧
      ∀ (index : Nat) (one two : Step), steps[index]? = some one → others[index]? = some two →
        Step.Corresponds ⟨⟨limit, .local_⟩, program⟩ names index one two := by
  have alike := Coupling.modes_runs program limit fun _ reached => reached
  unfold Program.trace
  generalize (Context.mk ⟨limit, .local_⟩ program).execute.run State.initial = first at alike ⊢
  generalize (Context.mk ⟨limit, .all⟩ program).execute.run State.initial = second at alike ⊢
  cases alike with
  | stopped stops => exact stops.elim
  | @failed failure one two line =>
      refine .inl ⟨failure.attributed one.line, rfl, ?_⟩
      dsimp only
      rw [line]
  | @completed result final two finished =>
      obtain ⟨grows, steps, rfl, mirrored⟩ := finished
      refine .inr ⟨final.steps.toList, steps.toList, final.declared, rfl, rfl, ?_, mirrored.distinct, grows, ?_⟩
      · simpa using mirrored.count
      · intro index one two foundOne foundTwo
        rw [Array.getElem?_toList] at foundOne foundTwo
        obtain ⟨moment, reached, rfl, noted, pictures⟩ := mirrored.pictures index one two foundOne foundTwo
        exact pictures.corresponds reached noted (grows moment reached)

/-- A program with a static field and a variable in a block. -/
def Program.ofBlock : Program where
  classes :=
    [{ line := 1, name := "Main",
       body :=
         [.field { line := 2, typeName := "int", name := "count", value := some (.int 2 1), isStatic := true },
           .method
             { line := 3, returnType := "void", name := "main", params := [],
               body :=
                 [.block 4
                   [.declare
                     { line := 5, typeName := "int", name := "part", value := some (.int 5 2),
                       isStatic := false }]] }] }]

/-- The step in the block shows its variable in the one mode, and the field as well in the other. -/
theorem ofBlock_corresponds :
    ∃ steps others names one two,
      Program.ofBlock.trace ⟨9, .local_⟩ = .ok steps ∧ Program.ofBlock.trace ⟨9, .all⟩ = .ok others ∧
      steps[1]? = some one ∧ others[1]? = some two ∧
      one.bindings = [("part", some (.int 2))] ∧
      two.bindings = [("count", some (.int 1)), ("part", some (.int 2))] ∧
      Step.Corresponds ⟨⟨9, .local_⟩, .ofBlock⟩ names 1 one two := by
  have local_ : (Program.ofBlock.trace ⟨9, .local_⟩).map (·[1]?.map Step.bindings) =
      .ok (some [("part", some (.int 2))]) := by decide +kernel
  have all : (Program.ofBlock.trace ⟨9, .all⟩).map (·[1]?.map Step.bindings) =
      .ok (some [("count", some (.int 1)), ("part", some (.int 2))]) := by decide +kernel
  rcases mode_affects_display_only .ofBlock 9 with ⟨failure, failed, -⟩ | ⟨steps, others, names, first, second, -, -, -, each⟩
  · rw [failed] at local_
    cases local_
  · rw [first] at local_
    rw [second] at all
    obtain ⟨one, foundOne, bindingsOne⟩ := Option.map_eq_some_iff.mp (Except.ok.inj local_)
    obtain ⟨two, foundTwo, bindingsTwo⟩ := Option.map_eq_some_iff.mp (Except.ok.inj all)
    exact ⟨steps, others, names, one, two, first, second, foundOne, foundTwo, bindingsOne, bindingsTwo,
      each 1 one two foundOne foundTwo⟩

end Stepwise
