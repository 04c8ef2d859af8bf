import Stepwise.Proofs.Linkage

/-!
# Every lookup of a run finds its record

Reading and writing through anchored values and slots fails only for reasons of the program: a name that is not bound,
a null reference, an index out of bounds. With this the discipline of references is complete, and a run of a compiled
source obeys it: in all its states, and whatever is evaluated there, no handle leads nowhere.

That the source was compiled matters for character literals only: the scanner lets no other through than those that
denote one character.
-/

namespace Stepwise

set_option autoImplicit false

variable {context : Context}

namespace Scopes

theorem Nested.lookup_cases {scopes : Scopes} (nested : scopes.Nested) (name : String) {handle : Nat}
    (inside : handle < scopes.size) :
    (∃ value, scopes.lookup handle name = .ok value) ∨
      scopes.lookup handle name = .error (.bare (.unknownName name)) := by
  unfold Scopes.lookup
  rcases nested.binding_cases name inside with ⟨owner, scope, found, bound, -, -⟩ | unknown
  · rw [bound]
    exact .inl ⟨found.value, rfl⟩
  · rw [unknown]
    exact .inr rfl

theorem Nested.sound_lookup {scopes : Scopes} {heap : Heap} (nested : scopes.Nested) (anchored : scopes.Anchored heap)
    (name : String) {handle : Nat} (inside : handle < scopes.size) :
    Sound (scopes.lookup handle name) (Value.Anchored heap) := by
  refine ⟨fun value found => Hold.lookup anchored found, ?_⟩
  intro failure failed
  rcases nested.lookup_cases name inside with ⟨value, found⟩ | unknown
  · rw [found] at failed
    cases failed
  · rw [unknown] at failed
    cases failed
    trivial

theorem Nested.benign_of_assign {scopes : Scopes} (nested : scopes.Nested) {name : String} {handle : Nat}
    (inside : handle < scopes.size) {value : Value} {failure : Failure}
    (failed : scopes.assign handle name value = .error failure) : failure.Benign := by
  unfold Scopes.assign at failed
  rcases nested.binding_cases name inside with ⟨owner, scope, found, bound, -, -⟩ | unknown
  · rw [bound] at failed
    dsimp only at failed
    split at failed
    · next cause coerced =>
        cases failed
        exact Value.benign_of_coerce coerced
    · cases failed
  · rw [unknown] at failed
    cases failed
    trivial

theorem benign_of_declare {scopes : Scopes} {handle : Nat} (inside : handle < scopes.size) {name : String}
    {value : Value} {typeName : Option String} {failure : Failure}
    (failed : scopes.declare handle name value typeName = .error failure) : failure.Benign := by
  obtain ⟨scope, found⟩ := Option.isSome_iff_exists.mp (get?_isSome.mpr inside)
  unfold Scopes.declare at failed
  rw [found] at failed
  dsimp only at failed
  split at failed
  · cases failed
    trivial
  · split at failed
    · next cause coerced =>
        cases failed
        exact Value.benign_of_coerce coerced
    · cases failed

end Scopes

namespace Discipline

variable {state : State} {room : Nat}

theorem linking_dereference {value : Value} (action : String) (line : Nat) (anchored : value.Anchored state.heap) :
    (linking context).Finds state (Machine.dereference value action line) fun found =>
      state.heap.get? found.1 = some found.2 := by
  cases value with
  | ref handle =>
      obtain ⟨cell, found⟩ := Option.isSome_iff_exists.mp (Heap.get?_isSome.mpr anchored)
      refine .look ?_
      rw [found]
      exact .yields found
  | _ => exact .fails trivial

theorem linking_ofIndex {container index : Value} (line : Nat) (anchored : container.Anchored state.heap) :
    (linking context).Finds state (Slot.ofIndex line container index) (Slot.Anchored state) := by
  refine (linking_dereference "index into" line anchored).seq (.dereference _ _ _) ?_
  rintro ⟨handle, cell⟩ found
  cases cell with
  | object className fields => exact .fails trivial
  | array elementType values =>
      dsimp only
      split
      · exact .fails trivial
      · next position _ =>
          split
          · next bounds => exact .yields ⟨elementType, values, found, by omega⟩
          · have writes : (linking context).Accepts (liftFault (Number.integerText position)) fun _ => True :=
              Sound.of_benign fun _ failed => Number.benign_of_integerText failed
            exact (Finds.ofOutcome writes).seq (.ofOutcome _) fun _ _ => .fails trivial

theorem linking_ofField {container : Value} (line : Nat) (name : String) (anchored : container.Anchored state.heap) :
    (linking context).Finds state (Slot.ofField line container name) (Slot.Anchored state) := by
  refine (linking_dereference _ line anchored).seq (.dereference _ _ _) ?_
  rintro ⟨handle, cell⟩ found
  cases cell with
  | object className fields => exact .yields ⟨className, fields, found⟩
  | array elementType values =>
      dsimp only
      split
      · exact .yields trivial
      · exact .fails trivial

theorem linking_methodOf {receiver : Value} (line : Nat) (name : String) (anchored : receiver.Anchored state.heap) :
    (linking context).Finds state (Machine.methodOf context line receiver name) fun _ => True := by
  unfold Machine.methodOf
  extract_lets following
  have finds : ∀ result, (linking context).Finds state (following result) fun _ => True := by
    intro result
    refine (linking_dereference _ line anchored).seq (.dereference _ _ _) ?_
    rintro ⟨handle, cell⟩ -
    cases cell with
    | array elementType values => exact .fails trivial
    | object className fields =>
        dsimp only
        split
        · exact .yields trivial
        · exact .fails trivial
  split
  · exact Finds.seq (.fails trivial) (.raise _) fun _ (impossible : False) => impossible.elim
  · exact finds ()

theorem linking_read {slot : Slot} (ready : (linking context).Ready room state) (anchored : slot.Anchored state) :
    (linking context).Finds state slot.read (Value.Anchored state.heap) := by
  have linked := ready.settled
  cases slot with
  | binding scope name =>
      refine .look (.ofOutcome ?_)
      exact ready.placed.nested.sound_lookup linked.scopes name anchored
  | element handle position =>
      obtain ⟨elementType, values, found, inside⟩ := anchored
      refine .look ?_
      rw [found]
      dsimp only
      rw [Array.getElem?_eq_getElem inside]
      exact .yields (linked.heap handle _ found _ (Array.getElem_mem inside))
  | field handle name =>
      obtain ⟨className, fields, found⟩ := anchored
      refine .look ?_
      rw [found]
      dsimp only
      split
      · next value bound => exact .yields ((linked.heap handle _ found).2 _ (Pairs.mem_of_lookup bound))
      · exact .fails trivial
  | length size => exact .yields trivial

/-- Whatever a change of the state comes to, it does not fail. -/
theorem linking_changes {update : State → State} {α : Type} (result : α) :
    (linking context).Finds state (modify update >>= fun _ => pure result : Machine α) fun _ => True := by
  refine ⟨fun _ _ _ => trivial, ?_⟩
  intro failure final ended
  cases ended

theorem linking_write {slot : Slot} {value : Value} (ready : (linking context).Ready room state)
    (anchored : slot.Anchored state) : (linking context).Finds state (slot.write value) fun _ => True := by
  cases slot with
  | binding scope name =>
      have assigns : (linking context).Accepts (state.scopes.assign scope name value) fun _ => True :=
        Sound.of_benign fun _ failed => ready.placed.nested.benign_of_assign anchored failed
      exact .look ((Finds.ofOutcome assigns).seq (.ofOutcome _) fun _ _ => linking_changes _)
  | element handle position =>
      obtain ⟨elementType, values, found, -⟩ := anchored
      have converts : (linking context).Accepts (value.coerce (some elementType)) fun _ => True :=
        Sound.of_benign fun _ failed => Value.benign_of_coerce failed
      refine .look ?_
      rw [found]
      exact (Finds.ofOutcome converts).seq (.ofOutcome _) fun _ _ => linking_changes _
  | field handle name =>
      obtain ⟨className, fields, found⟩ := anchored
      refine .look ?_
      rw [found]
      exact linking_changes _
  | length size => exact .fails trivial

end Discipline

theorem Discipline.linking_valueLaws (context : Context) : (linking context).ValueLaws where
  toContentLaws := .of_all fun _ _ _ => trivial
  plain state _ isPlain := isPlain.anchored state.heap
  classValue _ _ _ := trivial
  text _ _ := trivial
  character state decodes := by
    obtain ⟨char, single⟩ := decodes _ _ rfl
    unfold Machine.literalChar
    rw [single]
    exact .yields trivial
  sized _ := trivial
  listed _ := trivial
  declaredElement _ _ := trivial
  value_mono continues anchored := anchored.mono continues
  slot_mono continues size anchored := anchored.mono continues size
  benign harmless := harmless
  lookup name ready := .look (.ofOutcome (ready.placed.nested.sound_lookup ready.settled.scopes name ready.placed.current))
  ofName {room state} name ready := by
    have resolves : (linking context).Accepts (state.scopes.resolve state.current name) fun _ => True := by
      refine Sound.of_benign fun failure failed => ?_
      rcases ready.placed.nested.resolve_cases name ready.placed.current with ⟨_, _, _, resolved, -⟩ | unknown
      · rw [resolved] at failed
        cases failed
      · rw [unknown] at failed
        cases failed
        trivial
    exact .look ((Finds.ofOutcome resolves).seq (.ofOutcome _) fun _ _ => .yields ready.placed.current)
  here _ ready := ready.placed.current
  ofIndex line _ container _ := linking_ofIndex line container
  ofField line name _ container := linking_ofField line name container
  read ready anchored := linking_read ready anchored
  write_error ready anchored _ failed := (linking_write ready anchored).2 _ _ failed
  declare_error _ inside _ failed := Scopes.benign_of_declare inside failed
  methodOf line name _ receiver := linking_methodOf line name receiver
  binary line operator _ left right := Value.sound_binary line operator left right
  narrowed current anchored := Value.sound_narrowedLike current anchored
  coerced typeName anchored := Value.sound_coerce typeName anchored
  console method _ anchored := method.sound_output anchored

theorem Discipline.linking_laws (context : Context) : (linking context).Laws where
  toStateLaws := linking_stateLaws context
  toValueLaws := linking_valueLaws context

theorem State.initial_linked (context : Context) : State.initial.Linked context where
  scopes := by
    intro handle scope found
    rw [State.eq_of_initial found]
    exact nofun
  heap := by
    intro handle cell found
    simp [State.initial, Heap.empty, Heap.get?] at found
  frames := nofun
  steps := nofun

def Context.Compiles (context : Context) (source : String) : Prop :=
  ∃ compiled, compile source = .ok compiled ∧ compiled.program = context.program

/-- The program of a source, if it compiles. -/
def Context.ofSource (options : Options) (source : String) : Context where
  options := options
  program := ((compile source).toOption.map Compiled.program).getD { classes := [] }

theorem Context.compiles_ofSource {source : String} (options : Options)
    (accepted : (compile source).toOption.isSome = true) : (Context.ofSource options source).Compiles source := by
  unfold Context.Compiles Context.ofSource
  cases outcome : compile source with
  | error rejection =>
      rw [outcome] at accepted
      cases accepted
  | ok compiled => exact ⟨compiled, rfl, rfl⟩

namespace Context.Compiles

variable {source : String}

theorem decodes (compiles : context.Compiles source) {expression : Expr}
    (member : expression ∈ context.program.expressions) : ∀ part ∈ expression.parts, part.Decodes := by
  obtain ⟨compiled, accepted, same⟩ := compiles
  rw [← same] at member
  intro part inside line raw literal
  have read := (readFrom_of_compile accepted expression member).parts part inside
  cases read with
  | char given kind =>
      cases literal
      exact decodedLiteral_of_scan (compile_eq_ok accepted).1 given kind
  -- The form of an operation depends on its level; none is a literal.
  | @operation level => cases level <;> cases literal
  | _ => cases literal

theorem known (compiles : context.Compiles source) : ∀ part ∈ context.program.expressions, part.Decodes :=
  fun part member => compiles.decodes member part part.mem_parts_self

theorem runs (compiles : context.Compiles source) :
    (Discipline.linking context).Upholds (· ≠ []) State.initial context.execute fun final _ =>
      (Discipline.linking context).Follows (some globalScope) maxCallDepth State.initial final :=
  Discipline.runs_execute (Discipline.linking_laws context) compiles.known (fun _ _ => trivial)
    ⟨State.initial_placed, State.initial_linked context⟩ fun _ _ _ => trivial

theorem obeysCalls (compiles : context.Compiles source) (room : Nat) :
    (Discipline.linking context).ObeysCalls room (Calls.within context room) :=
  Discipline.obeysCalls_within (Discipline.linking_laws context) compiles.known (fun _ _ => trivial) room

end Context.Compiles

theorem Slot.Written.size_heap {slot : Slot} {value stored : Value} {before after : State}
    (written : slot.Written value before stored after) : after.heap.size = before.heap.size := by
  cases written with
  | binding assigned => rfl
  | element found coerced => exact Heap.size_set _ _ _
  | field found => exact Heap.size_set _ _ _

theorem State.invariant_size (context : Context) (least : Nat) :
    State.Invariant context (least ≤ ·.heap.size) (least ≤ ·.heap.size) where
  holds enough := enough
  bookkept enough same := by
    rw [same.heap]
    exact enough
  recorded _ _ _ enough _ := enough
  declared enough _ := enough
  stored line enough written := by
    rw [← written.size_heap] at enough
    exact ⟨enough, enough⟩
  allocated {state cell after} _ enough _ same := by
    have more : least ≤ (state.heap.allocate cell).size := by
      rw [Heap.size_allocate]
      exact Nat.le_succ_of_le enough
    rw [same]
    exact ⟨more, more⟩
  opened _ enough := enough
  entered _ enough := enough
  left _ enough _ := enough
  framed _ enough := enough

/-- Begun in a state, a computation finds every record that it looks for, takes no cell away, so that what was
anchored before stays so, and yields what is anchored as told. -/
structure Machine.Secure {α : Type} (computation : Machine α) (start : State) (told : State → α → Prop) : Prop where
  yields : ∀ {result final}, computation.run start = .ok result final → told final result
  fails : ∀ {failure final}, computation.run start = .error failure final → failure.Benign
  keeps : ∀ {state}, computation.passes start state → start.heap.size ≤ state.heap.size

/-- What evaluation, begun in a state with room for so many more frames, does with references. -/
structure Context.KeepsReferences (context : Context) (room : Nat) (state : State) : Prop where
  expression : ∀ expression ∈ context.program.expressions,
    (expression.eval context (Calls.within context room)).Secure state fun final value => value.Anchored final.heap
  statement : ∀ statement : Stmt, (∀ part ∈ statement.expressions, part ∈ context.program.expressions) →
    (statement.exec context (Calls.within context room)).Secure state fun final completion =>
      ∀ value, completion = .returned value → value.Anchored final.heap
  call : ∀ method className arguments line, context.Declares method className →
    (∀ argument ∈ arguments, argument.Anchored state.heap) →
    ((Calls.within context room).invoke method className arguments line).Secure state fun final value =>
      value.Anchored final.heap
  creation : ∀ decl, context.program.class? decl.name = some decl →
    ((Calls.within context room).instantiate decl).Secure state fun final cell => cell.Anchored context final.heap

section Reachable

variable {source : String} {state : State} {room : Nat}

def Discipline.growing (context : Context) (start : State) : Discipline context :=
  .ofInvariant context (start.heap.size ≤ ·.heap.size) (start.heap.size ≤ ·.heap.size)

theorem Discipline.growing_laws (context : Context) (start : State) : (growing context start).Laws :=
  (State.invariant_size context start.heap.size).laws

theorem Discipline.growing_obeysCalls (context : Context) (start : State) (room : Nat) :
    (growing context start).ObeysCalls room (Calls.within context room) :=
  obeysCalls_within (growing_laws context start) (fun _ _ => trivial) (fun _ _ => trivial) room

theorem Machine.secure_of_obeys {free : Option Nat} {α : Type} {computation : Machine α}
    {required other : State → α → Prop}
    (linked : (Discipline.linking context).Obeys free room state computation required)
    (grows : (Discipline.growing context state).Obeys free room state computation other) :
    computation.Secure state required := by
  have upholds := linked fun _ _ _ => trivial
  have increases := grows fun _ _ _ => trivial
  exact ⟨fun ended => (upholds.ending _ _ ended).2, fun ended => upholds.failing _ _ ended,
    fun passed => (increases.passing _ passed).2⟩

theorem Context.Compiles.keepsReferences (compiles : context.Compiles source) (placed : state.Placed)
    (linked : state.Linked context) (room : Nat) : context.KeepsReferences room state := by
  have laws := Discipline.linking_laws context
  have obeys := compiles.obeysCalls room
  have ready : (Discipline.linking context).Ready room state := ⟨placed, linked⟩
  have growing := Discipline.growing_laws context state
  have growingCalls := Discipline.growing_obeysCalls context state room
  have start : (Discipline.growing context state).Ready room state := ⟨placed, Nat.le_refl _⟩
  refine ⟨?_, ?_, ?_, ?_⟩
  · intro expression member
    have evaluates := Discipline.evaluates_of_known laws obeys (compiles.decodes member) state ready
    have grows := Discipline.evaluates_of_known growing growingCalls
      (fun _ (_ : _ ∈ expression.parts) => trivial) state start
    exact Machine.secure_of_obeys evaluates grows
  · intro statement inside
    have known := fun part member => compiles.known part (inside part member)
    have executes := Discipline.executes_statement laws obeys statement known (fun _ _ => trivial) state ready
    have grows := Discipline.executes_statement growing growingCalls statement (fun _ _ => trivial)
      (fun _ _ => trivial) state start
    exact Machine.secure_of_obeys executes grows
  · intro method className arguments line declared anchored
    have grows := growingCalls.invoke line start declared fun _ (_ : _ ∈ arguments) => trivial
    exact Machine.secure_of_obeys (obeys.invoke line ready declared anchored) grows
  · intro decl found
    have instantiates := (obeys.instantiate ready found).imp fun _ _ _ made => Cell.Made.anchored made
    exact Machine.secure_of_obeys instantiates (growingCalls.instantiate start found)

end Reachable

def shownReference (id : String) : Json :=
  .object [("__ref__", .string id)]

theorem Value.eq_ref_of_shown {value : Value} {id : String} (shown : value.shown = shownReference id) :
    ∃ handle, value = .ref handle ∧ id = heapId handle := by
  cases value with
  | ref handle =>
      simp only [Value.shown, shownReference, Json.object.injEq, List.cons.injEq, Prod.mk.injEq, Json.string.injEq,
        Text.ofString_inj, true_and, and_true] at shown
      exact ⟨handle, rfl, shown.symm⟩
  | double number =>
      rw [Value.shown] at shown
      split at shown <;> cases shown
  | class_ name methods => simp [Value.shown, shownReference] at shown
  | _ => cases shown

theorem Value.Anchored.names {value : Value} {heap : Heap} {id : String} (anchored : value.Anchored heap)
    (shown : value.shown = shownReference id) : id ∈ heap.shown.map Prod.fst := by
  obtain ⟨handle, rfl, rfl⟩ := Value.eq_ref_of_shown shown
  rw [Heap.names_shown]
  exact List.mem_map_of_mem (List.mem_range.mpr anchored)

/-- The data that stands for a value in a step: that of a variable, of an element of an array, or of a field. -/
inductive Step.ShowsValue (step : Step) (data : Json) : Prop
  | ofVariable (name : String) (shown : (name, data) ∈ step.shownVariables)
  | ofElement {id elementType : String} {values : List Json}
      (cell : (id, shownArray elementType values) ∈ step.heap.shown) (shown : data ∈ values)
  | ofField {id className name : String} {fields : List (String × Json)}
      (cell : (id, shownObject className fields) ∈ step.heap.shown) (shown : (name, data) ∈ fields)

theorem Heap.get?_of_mem_shown {heap : Heap} {id : String} {data : Json} (member : (id, data) ∈ heap.shown) :
    ∃ handle cell, heap.get? handle = some cell ∧ cell.shown = data := by
  obtain ⟨handle, there⟩ := List.mem_iff_getElem?.mp member
  rw [getElem?_shown] at there
  obtain ⟨cell, found, same⟩ := Option.map_eq_some_iff.mp there
  cases same
  exact ⟨handle, cell, found, rfl⟩

theorem Step.Anchored.names {step : Step} {id : String} (anchored : step.Anchored context)
    (shows : step.ShowsValue (shownReference id)) : id ∈ step.heap.shown.map Prod.fst := by
  cases shows with
  | ofVariable name shown =>
      obtain ⟨⟨other, held⟩, member, same⟩ := List.mem_map.mp shown
      cases held with
      | none => cases same
      | some value => exact (anchored.bindings _ member value rfl).names (Prod.mk.inj same).2
  | ofElement cell shown =>
      obtain ⟨handle, cell, found, same⟩ := Heap.get?_of_mem_shown cell
      have held := anchored.heap handle cell found
      cases cell with
      | array elementType values =>
          simp only [Cell.shown, shownArray, Json.object.injEq, List.cons.injEq, Prod.mk.injEq, Json.string.injEq,
            Json.array.injEq, Text.ofString_inj, true_and, and_true] at same
          obtain ⟨rfl, rfl⟩ := same
          obtain ⟨value, member, same⟩ := List.mem_map.mp shown
          exact (held value (Array.mem_toList_iff.mp member)).names same
      | object className fields => simp [Cell.shown, shownArray] at same
  | ofField cell shown =>
      obtain ⟨handle, cell, found, same⟩ := Heap.get?_of_mem_shown cell
      have held := anchored.heap handle cell found
      cases cell with
      | array elementType values => simp [Cell.shown, shownObject] at same
      | object className fields =>
          simp only [Cell.shown, shownObject, Json.object.injEq, List.cons.injEq, Prod.mk.injEq, Json.string.injEq,
            Text.ofString_inj, true_and, and_true] at same
          obtain ⟨rfl, rfl⟩ := same
          obtain ⟨field, member, same⟩ := List.mem_map.mp shown
          exact (held.2 field member).names (Prod.mk.inj same).2

/-- In every state of a run of a compiled source, the references in variables, elements and fields lead to cells of
the heap, the scopes that the state refers to exist, and the classes of its frames and objects are declared; a name,
seen from any scope, is bound or unknown. Whatever is evaluated there yields values whose cells exist, and fails for no
lack of a record. An expression is evaluated in a frame of a declared class, a character literal denotes one
character, and a step shows, where values stand, references to cells that it shows. -/
theorem handles_lead_to_records (context : Context) (source : String) (compiles : context.Compiles source) :
    (∀ state, context.Reaches state →
      ((∀ handle scope, state.scopes.get? handle = some scope →
          ∀ binding ∈ scope.bindings, binding.value.Anchored state.heap) ∧
        (∀ handle elementType values, state.heap.get? handle = some (.array elementType values) →
          ∀ value ∈ values, value.Anchored state.heap) ∧
        (∀ handle className fields, state.heap.get? handle = some (.object className fields) →
          (context.program.class? className).isSome ∧ ∀ field ∈ fields, field.2.Anchored state.heap)) ∧
      (state.current < state.scopes.size ∧
        ∀ frame ∈ state.frames, frame.scope < state.scopes.size ∧
          (context.program.class? frame.className).isSome) ∧
      (∀ handle name, handle < state.scopes.size →
        (∃ value, state.scopes.lookup handle name = .ok value) ∨
          state.scopes.lookup handle name = .error (.bare (.unknownName name))) ∧
      (∀ room, context.KeepsReferences room state) ∧
      ∀ step ∈ state.steps, ∀ id, step.ShowsValue (shownReference id) → id ∈ step.heap.shown.map Prod.fst) ∧
    (∀ expression state, context.Marks (.evaluating expression) state →
      ∃ frame frames decl, state.frames = frame :: frames ∧ context.program.class? frame.className = some decl) ∧
    (∀ line raw, .char line raw ∈ context.program.expressions →
      ∃ char, ∀ state, (Machine.literalChar raw).run state = .ok (.char char) state) ∧
    (∀ failure final, context.execute.run State.initial = .error failure final → failure.Benign) := by
  have runs := compiles.runs
  refine ⟨?_, ?_, ?_, runs.failing⟩
  · intro state reached
    obtain ⟨placed, linked⟩ := runs.passing state reached
    refine ⟨⟨linked.scopes, ?_, ?_⟩, ⟨placed.current, ?_⟩, ?_, compiles.keepsReferences placed linked, ?_⟩
    · exact fun handle elementType values found => linked.heap handle _ found
    · exact fun handle className fields found => linked.heap handle _ found
    · exact fun frame member => ⟨placed.frames frame member, linked.frames frame member⟩
    · exact fun handle name inside => placed.nested.lookup_cases name inside
    · exact fun step member id shows => (linked.steps step member).names shows
  · intro expression state marked
    have occupied := runs.marking _ _ marked
    have linked := (runs.passing state (context.execute.passes_marked _ _ _ marked)).2
    obtain ⟨frame, frames, stack⟩ := List.exists_cons_of_ne_nil occupied
    have declared := linked.frames frame (by rw [stack]; exact List.mem_cons_self)
    obtain ⟨decl, found⟩ := Option.isSome_iff_exists.mp declared
    exact ⟨frame, frames, decl, stack, found⟩
  · intro line raw member
    obtain ⟨char, single⟩ := compiles.known _ member line raw rfl
    refine ⟨char, fun state => ?_⟩
    unfold Machine.literalChar
    rw [single]
    rfl

/-- A source that makes an object refer to itself. -/
def selfReference : String :=
  "class Main \x7b char tag = 'x'; Main next; void main() \x7b Main it = new Main(); it.next = it; \x7d \x7d"

def Context.ofSelfReference : Context where
  options := { maxSteps := 10, mode := .local_ }
  program := ((compile selfReference).toOption.map Compiled.program).getD { classes := [] }

theorem self_reference_leads_to_record :
    Context.ofSelfReference.Compiles selfReference ∧
      ∃ state step, Context.ofSelfReference.Reaches state ∧ step ∈ state.steps ∧
        step.heap.get? 0 = some (.object "Main" [("tag", .char 'x'), ("next", .ref 0)]) ∧
        step.ShowsValue (shownReference "heap_0") ∧ "heap_0" ∈ step.heap.shown.map Prod.fst := by
  have evaluated : (compile selfReference).toOption.isSome = true ∧
      (Context.ofSelfReference.execute.run State.initial).state.steps.back?.map Step.heap =
        some { cells := #[.object "Main" [("tag", .char 'x'), ("next", .ref 0)]] } := by
    rw [Context.ofSelfReference, compile, scan, toList_of_written selfReference rfl]
    decide +kernel
  obtain ⟨accepted, last⟩ := evaluated
  have compiles : Context.ofSelfReference.Compiles selfReference := Context.compiles_ofSource _ accepted
  have reached := Context.ofSelfReference.execute.passes_ending State.initial
  obtain ⟨step, found, heap⟩ := Option.map_eq_some_iff.mp last
  have recorded := Array.mem_of_back? found
  have cell : ("heap_0", shownObject "Main" [("tag", .string "x"), ("next", shownReference "heap_0")]) ∈
      step.heap.shown := by
    rw [heap]
    exact List.mem_cons_self
  have shows : step.ShowsValue (shownReference "heap_0") := .ofField cell (List.mem_cons_of_mem _ List.mem_cons_self)
  refine ⟨compiles, _, step, reached, recorded, by rw [heap]; rfl, shows, ?_⟩
  exact ((handles_lead_to_records _ _ compiles).1 _ reached).2.2.2.2 step recorded _ shows

end Stepwise
