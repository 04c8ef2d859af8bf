import Stepwise.Proofs.Discipline.Statement

/-!
# Runs under a discipline

Calls and creations obey a discipline, by induction over the room that is left for frames; so does the whole run of a
program. In a run every state keeps the discipline, every expression is evaluated in some frame, and every scope that
is closed is the newest one. A run that completes leaves the global scope alone, with an empty call stack.
-/

namespace Stepwise

set_option autoImplicit false

theorem Pairs.nodup_put {α : Type} {pairs : List (String × α)} (distinct : (pairs.map Prod.fst).Nodup)
    (name : String) (thing : α) : ((put name thing pairs).map Prod.fst).Nodup := by
  rcases put_cases name thing pairs with ⟨earlier, old, later, split, put⟩ | ⟨fresh, put⟩
  · rw [split] at distinct
    rw [put]
    simpa using distinct
  · rw [put, List.map_append]
    refine List.nodup_append.mpr ⟨distinct, List.nodup_cons.mpr ⟨List.not_mem_nil, List.nodup_nil⟩, ?_⟩
    rintro other member last appended rfl
    rw [List.map_singleton, List.mem_singleton] at appended
    rw [appended] at member
    exact fresh member

namespace Discipline

variable {context : Context} {D : Discipline context} {room : Nat} {start : State} {calls : Calls} (laws : D.Laws)
include laws

theorem obeys_checkArguments {free : Option Nat} (method : Method) (arguments : List Value) (line : Nat)
    (ready : D.Ready room start) :
    D.Obeys free room start (Machine.checkArguments method arguments line) fun final _ => final = start := by
  unfold Machine.checkArguments
  split
  · exact .yields laws ready rfl
  · exact .failOn laws line _ ready

theorem obeys_bindParams {activation : Nat} (params : List Param) (arguments : List Value)
    (ready : D.Ready room start) (inside : activation < start.scopes.size)
    (admitted : ∀ value ∈ arguments, D.value start value) :
    D.Obeys (some activation) room start (Machine.bindParams activation params arguments) fun _ _ => True := by
  induction params generalizing arguments start with
  | nil =>
      rw [Machine.bindParams.eq_def]
      exact .yields laws ready trivial
  | cons param params hypothesis =>
      cases arguments with
      | nil =>
          rw [Machine.bindParams.eq_def]
          exact .yields laws ready trivial
      | cons argument arguments =>
          rw [Machine.bindParams.eq_def]
          have first := admitted argument List.mem_cons_self
          refine (obeys_declareIn laws param.name _ ready inside first).seq laws ?_
          intro _ middle follows _
          refine (obeys_noteDeclared laws param.name follows.ready).seq laws ?_
          intro _ state further _
          have leads := laws.leads_trans follows.leads further.leads
          refine hypothesis arguments further.ready ?_ ?_
          · rw [further.restores.size, follows.restores.size]
            exact inside
          · exact fun value member => laws.value_mono leads (admitted value (List.mem_cons_of_mem _ member))

theorem obeys_initialFields {family declarations : List Declaration} {fields : List (String × Value)}
    (obeys : D.ObeysCalls room calls)
    (known : ∀ declaration ∈ declarations, ∀ part ∈ declaration.expressions, D.node part)
    (kin : ∀ declaration ∈ declarations, declaration ∈ family) (ready : D.Ready room start)
    (admitted : ∀ field ∈ fields, D.value start field.2 ∧ Declaration.Give family field)
    (distinct : (fields.map Prod.fst).Nodup) :
    D.Obeys none room start (Machine.initialFields context calls fields declarations) fun final made =>
      (∀ field ∈ made, D.value final field.2 ∧ Declaration.Give family field) ∧
        (∀ name ∈ fields.map Prod.fst ++ declarations.map Declaration.name, name ∈ made.map Prod.fst) ∧
        (made.map Prod.fst).Nodup := by
  induction declarations generalizing fields start with
  | nil =>
      rw [Machine.initialFields, List.map_nil, List.append_nil]
      exact .yields laws ready ⟨admitted, fun _ present => present, distinct⟩
  | cons declaration others hypothesis =>
      have knownLater := fun other member => known other (List.mem_cons_of_mem declaration member)
      have kinLater := fun other member => kin other (List.mem_cons_of_mem declaration member)
      have knownHere := known declaration List.mem_cons_self
      unfold Declaration.expressions at knownHere
      have finish : ∀ value state, D.Follows none room start state → D.value state value →
          D.Obeys none room state
            (Machine.ofOutcome (value.coerce (some declaration.typeName)) >>= fun stored =>
              Machine.initialFields context calls (Pairs.put declaration.name stored fields) others)
            fun final made => (∀ field ∈ made, D.value final field.2 ∧ Declaration.Give family field) ∧
              (∀ name ∈ fields.map Prod.fst ++ (declaration :: others).map Declaration.name,
                name ∈ made.map Prod.fst) ∧ (made.map Prod.fst).Nodup := by
        intro value state follows held
        refine (Obeys.ofOutcome laws follows.ready ((laws.coerced _ held).also fun _ same => same)).seq laws ?_
        rintro stored same - ⟨rfl, kept, coerced⟩
        refine (hypothesis knownLater kinLater follows.ready ?_ (Pairs.nodup_put distinct _ _)).imp ?_
        · intro field member
          rcases Pairs.mem_put member with this | before
          · subst this
            exact ⟨kept, declaration, kin declaration List.mem_cons_self, rfl, Value.fits_of_coerce coerced⟩
          · exact ⟨laws.value_mono follows.leads (admitted field before).1, (admitted field before).2⟩
        · rintro final made - ⟨given, names, apart⟩
          refine ⟨given, fun name present => names name ?_, apart⟩
          rw [List.map_cons, List.mem_append, List.mem_cons] at present
          rw [List.mem_append]
          rcases present with before | rfl | later
          · exact .inl ((Pairs.names_put _ _ _).subset before)
          · exact .inl (Pairs.name_mem_put _ _ _)
          · exact .inr later
      rw [Machine.initialFields]
      cases given : declaration.value with
      | some expression =>
          rw [given, Expr.partsOf] at knownHere
          exact (evaluates_of_known laws obeys knownHere start ready).seq laws finish
      | none =>
          have yields : D.Obeys none room start (pure (Value.default declaration.typeName)) D.value :=
            .yields laws ready (laws.plain start (Value.default_isPlain _))
          exact yields.seq laws finish

omit laws in
theorem Ready.global (ready : D.Ready room start) : globalScope < start.scopes.size :=
  Nat.zero_lt_of_lt ready.placed.current

theorem obeys_invoke {method : Method} {className : String} {arguments : List Value} (line : Nat)
    (obeys : D.ObeysCalls room (Calls.within context room)) (ready : D.Ready (room + 1) start)
    (declared : context.Declares method className) (admitted : ∀ value ∈ arguments, D.value start value)
    (known : ∀ part ∈ Stmt.expressionsAll method.body, D.node part)
    (written : ∀ declaration ∈ Stmt.declarationsAll method.body, D.declaration declaration) :
    D.Obeys none (room + 1) start
      ((Calls.within context (room + 1)).invoke method className arguments line) D.value := by
  have executes := executes_statements laws obeys known written
  rw [Calls.within]
  refine (obeys_checkArguments laws method arguments line ready).seq laws ?_
  rintro - start - rfl
  refine Runs.seq (runs_openScope laws ready ready.global) ?_
  rintro activation opened - ⟨rfl, current, activated⟩
  have inside : start.scopes.size < opened.scopes.size := by
    rw [activated.size]
    exact Nat.lt_succ_self _
  have binds := obeys_bindParams laws method.params arguments activated.ready inside
    fun value member => laws.value_mono activated.leads (admitted value member)
  unfold Obeys at binds
  rw [activated.frames] at binds
  refine binds.seq ?_
  rintro - state - ⟨follows, -⟩
  refine .look ?_
  have back : state.current = start.current := follows.restores.current.trans current
  refine runs_runFrame laws ready ?_ (activated.follows laws follows) (.call method className _ declared) back executes
  exact fun frames above => (List.suffix_cons _ _).trans above

theorem obeys_instantiate {decl : ClassDecl} (obeys : D.ObeysCalls room (Calls.within context room))
    (ready : D.Ready (room + 1) start) (found : context.program.class? decl.name = some decl)
    (known : ∀ declaration ∈ decl.instanceFields, ∀ part ∈ declaration.expressions, D.node part) :
    D.Obeys none (room + 1) start ((Calls.within context (room + 1)).instantiate decl) fun final cell =>
      cell.Made context D.element (D.value final) := by
  rw [Calls.within]
  refine .look ?_
  have entered := (laws.entered ready ready.global).2
  have atGlobal : D.Ready (room + 1) { start with current := globalScope } := ready.entered laws ready.global
  have creates : context.Pushes
      { methodName := "<init>", line := decl.line, scope := start.current, className := decl.name } :=
    .creation decl start.current found
  obtain ⟨settledAbove, leadsAbove⟩ := laws.pushed atGlobal ready.placed.current creates
  have pushed : D.Ready room _ := ⟨atGlobal.placed.pushed ready.placed.current, settledAbove⟩
  refine Runs.change_seq (ready.holds laws) (Runs.change_seq (atGlobal.holds laws) ?_)
  have fields := obeys_initialFields laws obeys known (fun _ inside => inside) pushed
    (fun _ impossible => absurd impossible List.not_mem_nil) List.nodup_nil
  refine Runs.seq (Runs.allow fields fun frames above => (List.suffix_cons _ _).trans above) ?_
  rintro fields ended - ⟨follows, admitted, names, apart⟩
  have older : start.current < ended.scopes.size := by
    rw [follows.restores.size]
    exact ready.placed.current
  have returned : D.Ready room { ended with current := start.current } := follows.ready.entered laws older
  have leadsBack := (laws.entered follows.ready older).2
  have stack : ended.frames =
      { methodName := "<init>", line := decl.line, scope := start.current, className := decl.name } :: start.frames :=
    follows.restores.frames
  have tail : ended.frames.tail = start.frames := by
    rw [stack]
    rfl
  obtain ⟨settledBelow, leadsBelow⟩ := laws.popped returned stack
  have popped : D.Ready (room + 1) { ended with current := start.current, frames := start.frames } :=
    ⟨returned.placed.popped stack, settledBelow⟩
  refine Runs.change_seq (follows.ready.holds laws) (Runs.change_seq (returned.holds laws) ?_)
  rw [tail]
  have finished := laws.leads_trans leadsBack leadsBelow
  have whole := laws.leads_trans entered (laws.leads_trans leadsAbove (laws.leads_trans follows.leads finished))
  refine .yields (popped.holds laws) ⟨⟨popped, ⟨follows.restores.size, rfl, rfl, follows.restores.shapes⟩, whole⟩, ?_⟩
  refine ⟨decl, found, fun field member => ?_, fun other member => names _ (List.mem_map_of_mem member), apart⟩
  exact ⟨laws.value_mono finished (admitted field member).1, (admitted field member).2⟩

variable (known : ∀ part ∈ context.program.expressions, D.node part)
  (written : ∀ declaration ∈ context.program.declarations, D.declaration declaration)
include known written

omit laws written in
theorem known_of_declares {method : Method} {className : String} (declared : context.Declares method className) :
    ∀ part ∈ Stmt.expressionsAll method.body, D.node part := by
  obtain ⟨decl, name, found, chosen⟩ := declared
  exact ClassDecl.expressions_of_method?
    (Program.expressions_of_mem known (Program.class?_eq_some found).2) chosen

omit laws known in
theorem written_of_declares {method : Method} {className : String} (declared : context.Declares method className) :
    ∀ declaration ∈ Stmt.declarationsAll method.body, D.declaration declaration := by
  obtain ⟨decl, name, found, chosen⟩ := declared
  exact fun declaration inside =>
    written declaration (Program.mem_declarations_of_method? (Program.class?_eq_some found).2 chosen inside)

/-- Calls and creations obey, however many frames there is room for. -/
theorem obeysCalls_within (room : Nat) : D.ObeysCalls room (Calls.within context room) := by
  -- The body of a call and the initialisers of an object make calls of their own, with room for one frame less.
  induction room with
  | zero =>
      refine ⟨rfl, ?_, ?_⟩
      · intro state method className arguments line ready declared admitted
        rw [Calls.within]
        refine (obeys_checkArguments laws method arguments line ready).seq laws ?_
        exact fun _ after follows _ => .failOn laws line _ follows.ready
      · intro state decl ready found
        rw [Calls.within]
        exact .fails laws ready (laws.benign trivial)
  | succ room hypothesis =>
      refine ⟨rfl, ?_, ?_⟩
      · intro state method className arguments line ready declared admitted
        exact obeys_invoke laws line hypothesis ready declared admitted (known_of_declares known declared)
          (written_of_declares written declared)
      · intro state decl ready found
        have knownHere := Program.expressions_of_mem known (Program.class?_eq_some found).2
        refine obeys_instantiate laws hypothesis ready found ?_
        exact fun declaration member => ClassDecl.expressions_of_field knownHere (List.mem_filter.mp member).1

omit known written in
theorem obeys_declareClasses (decls : List ClassDecl) (members : ∀ decl ∈ decls, decl ∈ context.program.classes)
    (ready : D.Ready room start) :
    D.Obeys (some globalScope) room start (Machine.declareClasses decls) fun _ _ => True := by
  induction decls generalizing start with
  | nil =>
      rw [Machine.declareClasses]
      exact .yields laws ready trivial
  | cons decl decls hypothesis =>
      rw [Machine.declareClasses]
      refine (obeys_atLine laws decl.line ready).seq laws ?_
      intro _ middle follows _
      have admitted := laws.classValue middle (members decl List.mem_cons_self)
      refine (obeys_declareIn laws decl.name none follows.ready follows.ready.global admitted).seq laws ?_
      exact fun _ state further _ =>
        hypothesis (fun other member => members other (List.mem_cons_of_mem _ member)) further.ready

omit laws known written in
theorem unmarked_declareClasses (decls : List ClassDecl) (start : State) (sign : Mark) (state : State) :
    ¬(Machine.declareClasses decls).marks start sign state := by
  induction decls generalizing start with
  | nil =>
      rw [Machine.declareClasses]
      exact id
  | cons decl decls hypothesis =>
      rw [Machine.declareClasses]
      rintro (marked | ⟨_, middle, -, marked | ⟨_, last, -, marked⟩⟩)
      · exact marked
      · rcases marked with marked | ⟨_, _, -, marked | ⟨_, _, -, marked⟩⟩
        · exact marked
        · exact (Machine.ReadsOnly.ofOutcome _).unmarked _ _ _ marked
        · exact marked
      · exact hypothesis last marked

theorem executes_declareAll (declarations : List Declaration)
    (inside : ∀ declaration ∈ declarations, ∀ part ∈ declaration.expressions, D.node part)
    (declared : ∀ declaration ∈ declarations, D.declaration declaration) :
    D.Executes (maxCallDepth - 1) (Machine.declareAll context declarations) fun _ _ => True := by
  have obeys := obeysCalls_within laws known written (maxCallDepth - 1)
  induction declarations with
  | nil =>
      rw [Machine.declareAll]
      exact .yields laws fun _ => trivial
  | cons declaration others hypothesis =>
      rw [Machine.declareAll]
      have first := executes_declaration laws obeys (inside declaration List.mem_cons_self)
        (declared declaration List.mem_cons_self)
      refine first.andThen laws fun _ => hypothesis ?_ ?_
      · exact fun other member => inside other (List.mem_cons_of_mem _ member)
      · exact fun other member => declared other (List.mem_cons_of_mem _ member)

/-- The static fields of a class, declared in a frame of its own, and what comes after. -/
theorem runs_staticFields {decl : ClassDecl} {next : Unit → Machine Unit} {done : State → Unit → Prop}
    (ready : D.Ready maxCallDepth start) (global : start.current = globalScope)
    (member : decl ∈ context.program.classes)
    (others : ∀ state, D.Follows (some globalScope) maxCallDepth start state → D.Runs (· ≠ []) state (next ()) done) :
    D.Runs (· ≠ []) start (do
      Machine.pushFrame { methodName := "<clinit>", line := decl.line, scope := globalScope, className := decl.name }
      Machine.declareAll context decl.staticFields
      Machine.popFrame >>= next) done := by
  have knownHere := Program.expressions_of_mem known member
  have executes := executes_declareAll laws known written decl.staticFields
    (fun declaration inside => ClassDecl.expressions_of_field knownHere (List.mem_filter.mp inside).1)
    fun declaration inside => written declaration (Program.mem_declarations_of_field member (List.mem_filter.mp inside).1)
  have deep : D.Ready (maxCallDepth - 1 + 1) start := ready
  obtain ⟨settledAbove, leadsAbove⟩ := laws.pushed deep ready.global (.statics decl member)
  have pushed : D.Ready (maxCallDepth - 1) _ := ⟨ready.placed.pushed ready.global, settledAbove⟩
  refine Runs.change_seq (ready.holds laws) ?_
  refine Runs.seq (Runs.allow (executes _ pushed) ?_) ?_
  · rintro frames above rfl
    exact absurd (List.suffix_nil.mp above) nofun
  rintro - ended - ⟨follows, -⟩
  have stack := follows.restores.frames
  have tail : ended.frames.tail = start.frames := by
    rw [stack]
    rfl
  obtain ⟨settledBelow, leadsBelow⟩ := laws.popped follows.ready stack
  have popped : D.Ready maxCallDepth { ended with frames := start.frames } :=
    ⟨follows.ready.placed.popped stack, settledBelow⟩
  have restores : State.Restores (some globalScope) start { ended with frames := start.frames } := by
    have shapes := follows.restores.shapes
    rw [global] at shapes
    exact ⟨follows.restores.size, follows.restores.current, rfl, shapes⟩
  have leads := laws.leads_trans leadsAbove (laws.leads_trans follows.leads leadsBelow)
  refine Runs.change_seq (follows.ready.holds laws) ?_
  rw [tail]
  exact others _ ⟨popped, restores, leads⟩

theorem runs_initializeStatics (decls : List ClassDecl) (ready : D.Ready maxCallDepth start)
    (global : start.current = globalScope) (members : ∀ decl ∈ decls, decl ∈ context.program.classes) :
    D.Runs (· ≠ []) start (Machine.initializeStatics context decls) fun final _ =>
      D.Follows (some globalScope) maxCallDepth start final := by
  induction decls generalizing start with
  | nil =>
      rw [Machine.initializeStatics]
      exact .yields (ready.holds laws) (.refl laws ready)
  | cons decl decls hypothesis =>
      rw [Machine.initializeStatics]
      have later := fun other member => members other (List.mem_cons_of_mem decl member)
      split
      · refine runs_staticFields laws known written ready global (members decl List.mem_cons_self) ?_
        intro state follows
        have runs := hypothesis follows.ready (follows.restores.current.trans global) later
        exact runs.imp fun final _ _ further => follows.trans laws further
      · exact hypothesis ready global later

/-- The whole run of a program obeys. -/
theorem runs_execute (ready : D.Ready maxCallDepth State.initial) :
    D.Runs (· ≠ []) State.initial context.execute fun final _ =>
      D.Follows (some globalScope) maxCallDepth State.initial final := by
  have declares := obeys_declareClasses laws context.program.classes (fun _ member => member) ready
  -- No frame is pushed yet, but no expression is evaluated before one is.
  refine Runs.seq (Runs.unmarked declares (unmarked_declareClasses _ State.initial)) ?_
  rintro - declared - ⟨follows, -⟩
  cases entry : context.program.entryPoint? with
  | none => exact .fails (follows.ready.holds laws) (laws.benign trivial)
  | some main =>
      obtain ⟨decl, found, chosen⟩ := Option.bind_eq_some_iff.mp entry
      have present : context.Declares main "Main" := ⟨decl, "main", found, chosen⟩
      have named := (ClassDecl.method?_eq_some chosen).1
      have executes := executes_statements laws (obeysCalls_within laws known written (maxCallDepth - 1))
        (known_of_declares known present) (written_of_declares written present)
      have statics := runs_initializeStatics laws known written context.program.classes follows.ready
        follows.restores.current fun _ member => member
      refine statics.seq ?_
      intro _ state _ further
      have before := follows.trans laws further
      have deep : D.Ready (maxCallDepth - 1 + 1) state := before.ready
      refine .look ?_
      refine Runs.seq (runs_openScope laws deep deep.global) ?_
      rintro activation opened - ⟨rfl, -, activated⟩
      have pushes : context.Pushes
          { methodName := "main", line := main.line, scope := state.current, className := "Main" } := by
        have call := Context.Pushes.call main "Main" state.current present
        rw [named] at call
        exact call
      refine Runs.seq (runs_runFrame laws deep ?_ activated pushes rfl executes) ?_
      · rintro frames above rfl
        exact absurd (List.suffix_nil.mp above) nofun
      · rintro value final holds ⟨last, -⟩
        exact .yields holds (before.trans laws ⟨last.ready, last.restores.loosen _, last.leads⟩)

end Discipline

section Invariants

variable {context : Context}

/-- The discipline of an invariant of states, which asks nothing of values, slots and failures. The invariant may be
broken between a change and the step that records it, but not what holds throughout. -/
def Discipline.ofInvariant (context : Context) (invariant throughout : State → Prop) : Discipline context where
  node _ := True
  settled _ := invariant
  throughout := throughout
  leads _ _ := True
  value _ _ := True
  slot _ _ := True
  tolerates _ := True

theorem Discipline.ofInvariant_unrestricted {invariant throughout : State → Prop} :
    (ofInvariant context invariant throughout).Unrestricted :=
  ⟨fun _ _ => trivial, fun _ _ => trivial, fun _ => trivial, fun _ => trivial⟩

/-- What an invariant of states has to be kept by. -/
structure State.Invariant (context : Context) (invariant throughout : State → Prop) : Prop where
  holds : ∀ {state}, invariant state → throughout state
  bookkept : ∀ {state after}, invariant state → state.SameCore after → invariant after
  recorded : ∀ {state} line console event, invariant state → event ≠ some .allocation →
    invariant (state.recorded context.options line console event)
  declared : ∀ {state handle name value typeName stored scopes}, invariant state →
    state.scopes.declare handle name value typeName = .ok (stored, scopes) → invariant { state with scopes }
  stored : ∀ {state slot value stored written} line, invariant state → Slot.Written value state slot stored written →
    throughout written ∧ invariant (written.recorded context.options line none none)
  allocated : ∀ {state cell after} line, invariant state → cell.Made context (fun _ => True) (fun _ => True) →
    after = { state with heap := state.heap.allocate cell } →
    throughout after ∧ invariant (after.recorded context.options line none (some .allocation))
  opened : ∀ {state} parent, invariant state → invariant { state with scopes := state.scopes.opened (some parent) }
  entered : ∀ {state} handle, invariant state → invariant { state with current := handle }
  left : ∀ {state handle} outer, invariant state → handle + 1 = state.scopes.size →
    invariant { state with scopes := state.scopes.released handle, current := outer }
  framed : ∀ {state} frames, invariant state → invariant { state with frames }

theorem State.Invariant.laws {invariant throughout : State → Prop}
    (kept : State.Invariant context invariant throughout) :
    (Discipline.ofInvariant context invariant throughout).Laws where
  throughout_of_settled := kept.holds
  leads_refl _ := trivial
  leads_trans _ _ := trivial
  bookkept ready same := ⟨kept.bookkept ready.settled same, trivial⟩
  recorded line console event ready ordinary := ⟨kept.recorded line console event ready.settled ordinary, trivial⟩
  declared ready _ declared := ⟨kept.declared ready.settled declared, trivial⟩
  stored line ready _ _ _ ended := by
    obtain ⟨holds, settled⟩ := kept.stored line ready.settled (Slot.written_of_run ended)
    exact ⟨holds, settled, trivial, trivial⟩
  allocated line ready made same := by
    obtain ⟨holds, settled⟩ := kept.allocated line ready.settled made same
    exact ⟨holds, settled, trivial, trivial⟩
  opened ready _ := ⟨kept.opened _ ready.settled, trivial⟩
  entered ready _ := ⟨kept.entered _ ready.settled, trivial⟩
  left ready newest _ _ := ⟨kept.left _ ready.settled newest, trivial⟩
  pushed ready _ _ := ⟨kept.framed _ ready.settled, trivial⟩
  popped ready _ := ⟨kept.framed _ ready.settled, trivial⟩
  toValueLaws := Discipline.ofInvariant_unrestricted.valueLaws (.of_all fun _ _ _ => trivial)

theorem State.eq_of_initial {handle : Nat} {scope : Scope} (found : State.initial.scopes.get? handle = some scope) :
    scope = { parent := none, bindings := [] } := by
  rw [State.initial, Scopes.get?_opened] at found
  split at found
  · exact (Option.some.inj found).symm
  · simp [Scopes.empty, Scopes.get?] at found

theorem State.initial_placed : State.initial.Placed where
  nested := by
    intro handle scope parent found inside
    rw [State.eq_of_initial found] at inside
    cases inside
  current := Nat.zero_lt_one
  frames := nofun

/-- An invariant that holds before a run holds in every state of it, and in the last one if the run completes. -/
theorem State.Invariant.runs {invariant throughout : State → Prop}
    (kept : State.Invariant context invariant throughout) (initial : invariant State.initial) :
    (Discipline.ofInvariant context invariant throughout).Upholds (· ≠ []) State.initial context.execute fun final _ =>
      (Discipline.ofInvariant context invariant throughout).Follows (some globalScope) maxCallDepth State.initial
        final :=
  Discipline.runs_execute kept.laws (fun _ _ => trivial) (fun _ _ => trivial) ⟨State.initial_placed, initial⟩
    fun _ _ _ => trivial

end Invariants

end Stepwise
