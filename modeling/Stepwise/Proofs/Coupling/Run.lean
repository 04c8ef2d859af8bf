import Stepwise.Proofs.Coupling.Statement
import Stepwise.Proofs.Discipline.Operations

/-!
# Runs under a coupling

The body of a method runs in a scope of its own inside the global one, and the initialisers of an object run in the
global scope. So a call ends alike wherever states agree; the scope from which it is made need not be one in which both
runs may look. With this, calls end alike by induction over the room that is left for frames, and whole runs do.
-/

namespace Stepwise

set_option autoImplicit false

def Machine.enterWith (body : Machine Completion) (method : Method) (className : String) (arguments : List Value) :
    Machine Value := do
  let activation ← openScope globalScope
  bindParams activation method.params arguments
  let frame : Frame := { methodName := method.name, line := method.line, scope := (← get).current, className }
  runFrame frame activation body

namespace Coupling

variable {C : Coupling} {room : Nat} {one two : State} (laws : C.Laws)
include laws

theorem runs_checkArguments (method : Method) (arguments : List Value) (line : Nat) (agree : C.agree room one two) :
    C.Runs one two (Machine.checkArguments method arguments line) (Machine.checkArguments method arguments line)
      fun oneEnd twoEnd _ => oneEnd = one ∧ twoEnd = two := by
  unfold Machine.checkArguments
  split
  · exact .yields ⟨rfl, rfl⟩
  · exact .fails (laws.failing agree)

theorem runs_bindParams {activation : Nat} (params : List Param) (arguments : List Value)
    (agree : C.agree room one two) (own : C.own activation) :
    C.Runs one two (Machine.bindParams activation params arguments)
      (Machine.bindParams (C.place activation) params arguments) fun oneEnd twoEnd _ =>
        C.agree room oneEnd twoEnd ∧ oneEnd.current = one.current := by
  induction params generalizing arguments one two with
  | nil =>
      rw [Machine.bindParams.eq_def activation, Machine.bindParams.eq_def (C.place activation)]
      exact .yields ⟨agree, rfl⟩
  | cons param params ih =>
      cases arguments with
      | nil =>
          rw [Machine.bindParams.eq_def activation, Machine.bindParams.eq_def (C.place activation)]
          exact .yields ⟨agree, rfl⟩
      | cons argument arguments =>
          rw [Machine.bindParams.eq_def activation, Machine.bindParams.eq_def (C.place activation)]
          apply runs_declare_seq laws param.name argument param.typeName agree (.inr own)
          intro oneNext twoNext further same
          have rest := ih arguments further
          rw [same] at rest
          exact rest

theorem runs_methodResult (completion : Completion) (agree : C.agree room one two) :
    C.Runs one two (Machine.methodResult completion) (Machine.methodResult completion)
      fun oneEnd twoEnd _ => oneEnd = one ∧ twoEnd = two := by
  cases completion with
  | normal => exact .yields ⟨rfl, rfl⟩
  | returned value => exact .yields ⟨rfl, rfl⟩
  | jump jump => exact .fails (laws.failing agree)

/-- A body in a frame and a scope of its own, which is left for the scope that the frame names. -/
theorem runs_runFrame {activation : Nat} {left right : Machine Completion} (frame : Frame)
    (executes : C.Executes room left right) (agree : C.agree (room + 1) one two) (own : C.own activation) :
    C.Runs one two (Machine.runFrame frame activation left)
      (Machine.runFrame (frame.placed C.place) (C.place activation) right) fun oneEnd twoEnd _ =>
        C.agree (room + 1) oneEnd twoEnd ∧ oneEnd.current = frame.scope := by
  have above := laws.entered activation (laws.pushed frame agree)
  apply Runs.change_seq (laws.leads_of_same rfl rfl rfl)
  apply Runs.change_seq (laws.leads_of_same rfl rfl rfl)
  apply Runs.seq (executes _ _ ⟨above, .inr own⟩)
  intro completion oneNext twoNext done
  have further := done.1.agree
  apply (runs_methodResult laws completion further).seq
  rintro value oneSame twoSame ⟨rfl, rfl⟩
  apply Runs.change_seq (laws.leads_of_same rfl rfl rfl)
  apply (runs_leaveScope laws frame.scope (laws.popped agree further) own).seq
  intro _ oneLast twoLast last
  exact .yields last

theorem opens_global (agree : C.agree room one two) : C.Opens room globalScope globalScope one two := by
  have opens := laws.opened agree C.shared_global
  rw [laws.global agree] at opens
  exact opens

/-- A method is entered from anywhere, and left for where it was entered from. -/
theorem runs_enterWith {left right : Machine Completion} (method : Method) (className : String) (arguments : List Value)
    (executes : C.Executes room left right) (agree : C.agree (room + 1) one two) :
    C.Runs one two (Machine.enterWith left method className arguments) (Machine.enterWith right method className arguments)
      fun oneEnd twoEnd _ => C.agree (room + 1) oneEnd twoEnd ∧ oneEnd.current = one.current := by
  apply runs_openScope_seq laws agree (opens_global laws agree)
  intro oneOpen twoOpen activation activated own same
  apply (runs_bindParams laws method.params arguments activated own).seq
  intro _ oneBound twoBound bound
  obtain ⟨further, kept⟩ := bound
  apply Runs.look
  rw [laws.current further]
  apply (runs_runFrame laws _ executes further own).imp
  intro oneEnd twoEnd value done
  exact ⟨done.1, done.2.trans (kept.trans same)⟩

theorem runs_enterMethod {left right : Evaluator} (method : Method) (className : String) (arguments : List Value)
    (executes : C.Executes room (Stmt.execAllBy C.left left method.body) (Stmt.execAllBy C.right right method.body))
    (agree : C.agree (room + 1) one two) :
    C.Runs one two (Machine.enterMethod C.left left method className arguments)
      (Machine.enterMethod C.right right method className arguments)
      fun oneEnd twoEnd _ => C.agree (room + 1) oneEnd twoEnd ∧ oneEnd.current = one.current :=
  runs_enterWith laws method className arguments executes agree

section Creations

variable {left right : Calls} (couples : C.CouplesCalls room left right)
include couples

theorem couples_initialFields {declarations : List Declaration} {fields : List (String × Value)}
    (ready : C.Ready room one two) :
    C.Couples room one two (Machine.initialFields C.left left fields declarations)
      (Machine.initialFields C.right right fields declarations) fun _ => True := by
  induction declarations generalizing fields one two with
  | nil =>
      rw [Machine.initialFields, Machine.initialFields]
      exact .yields ready trivial
  | cons declaration others ih =>
      rw [Machine.initialFields, Machine.initialFields]
      have finish : ∀ value : Value, C.Executes room
          (Machine.ofOutcome (value.coerce (some declaration.typeName)) >>= fun stored =>
            Machine.initialFields C.left left (Pairs.put declaration.name stored fields) others)
          (Machine.ofOutcome (value.coerce (some declaration.typeName)) >>= fun stored =>
            Machine.initialFields C.right right (Pairs.put declaration.name stored fields) others) := by
        intro value oneNext twoNext further
        apply (Couples.outcome laws.toViewLaws further).seq
        intro stored oneLast twoLast last _
        exact ih last
      cases declaration.value with
      | some expression => exact (executes_expression laws couples expression).seq finish one two ready
      | none => exact (Executes.yields (Value.default declaration.typeName)).seq finish one two ready

/-- The initialisers of an object look at the global scope, wherever the object is made. -/
theorem runs_initialise (decl : ClassDecl) (agree : C.agree (room + 1) one two) :
    C.Runs one two (Machine.initialise C.left left decl) (Machine.initialise C.right right decl)
      fun oneEnd twoEnd _ => C.agree (room + 1) oneEnd twoEnd ∧ oneEnd.current = one.current := by
  have global := laws.entered globalScope agree
  rw [laws.global agree] at global
  have above := laws.pushed
    { methodName := "<init>", line := decl.line, scope := one.current, className := decl.name } global
  apply Runs.look
  rw [laws.current agree]
  apply Runs.change_seq (laws.leads_of_same rfl rfl rfl)
  apply Runs.change_seq (laws.leads_of_same rfl rfl rfl)
  apply Runs.seq (couples_initialFields laws couples ⟨above, C.shared_global⟩)
  intro fields oneNext twoNext done
  have further := laws.entered one.current done.1.agree
  apply Runs.change_seq (laws.leads_of_same rfl rfl rfl)
  apply Runs.change_seq (laws.leads_of_same rfl rfl rfl)
  exact .yields ⟨laws.popped global further, rfl⟩

end Creations

section Within

section Calls

variable (below : ∀ less, room = less + 1 → C.Supports less (.within C.left less) (.within C.right less))
include below

theorem runs_invoke (method : Method) (className : String) (arguments : List Value) (line : Nat)
    (agree : C.agree room one two) :
    C.Runs one two ((Calls.within C.left room).invoke method className arguments line)
      ((Calls.within C.right room).invoke method className arguments line)
      fun oneEnd twoEnd _ => C.agree room oneEnd twoEnd ∧ oneEnd.current = one.current := by
  cases room with
  | zero =>
      rw [Calls.within, Calls.within]
      apply (runs_checkArguments laws method arguments line agree).seq
      rintro - oneSame twoSame ⟨rfl, rfl⟩
      exact .fails (laws.failing agree)
  | succ room =>
      rw [Calls.invoke_within_succ, Calls.invoke_within_succ]
      apply (runs_checkArguments laws method arguments line agree).seq
      rintro - oneSame twoSame ⟨rfl, rfl⟩
      have executes := executes_statements laws (below room rfl) method.body
      exact runs_enterMethod laws method className arguments executes agree

theorem runs_instantiate (decl : ClassDecl) (agree : C.agree room one two) :
    C.Runs one two ((Calls.within C.left room).instantiate decl) ((Calls.within C.right room).instantiate decl)
      fun oneEnd twoEnd _ => C.agree room oneEnd twoEnd ∧ oneEnd.current = one.current := by
  cases room with
  | zero =>
      rw [Calls.within, Calls.within]
      exact .fails (laws.failing agree)
  | succ room =>
      rw [Calls.instantiate_within_succ, Calls.instantiate_within_succ]
      exact runs_initialise laws (below room rfl).toCouplesCalls decl agree

theorem couplesCalls_within : C.CouplesCalls room (Calls.within C.left room) (Calls.within C.right room) where
  invoke method className arguments line ready := by
    exact (runs_invoke laws below method className arguments line ready.agree).couples ready
  instantiate decl ready := by
    exact (runs_instantiate laws below decl ready.agree).couples ready

end Calls

/-- Where loops end alike, so does everything, however many frames there is room for. -/
theorem supports_within
    (loops : ∀ {room : Nat} {restLeft restRight : Machine (Option Completion)} (line : Nat),
      C.Executes room restLeft restRight →
      C.Executes room
        (Machine.loop C.left.options line (Machine.tick C.left.options line >>= fun _ => restLeft))
        (Machine.loop C.right.options line (Machine.tick C.right.options line >>= fun _ => restRight)))
    (room : Nat) : C.Supports room (.within C.left room) (.within C.right room) := by
  induction room with
  | zero => exact ⟨couplesCalls_within laws nofun, loops⟩
  | succ room ih =>
      have below : ∀ less, room + 1 = less + 1 → C.Supports less (.within C.left less) (.within C.right less) := by
        rintro less ⟨⟩
        exact ih
      exact ⟨couplesCalls_within laws below, loops⟩

omit laws in
/-- Loops of which every round ends the loop on both sides or on neither. What holds before a round holds before the
next one. -/
theorem runs_repeated {left right : Machine (Option Completion)} {holds : State → State → Prop}
    {done : State → State → Completion → Prop} (line limit bound : Nat)
    (failing : ∀ one two, holds one two → C.failing one two)
    (rounds : ∀ one two, holds one two → C.Runs one two left right fun oneEnd twoEnd outcome =>
      match outcome with
      | some completion => done oneEnd twoEnd completion
      | none => holds oneEnd twoEnd)
    (held : holds one two) :
    C.Runs one two (Machine.repeated line limit left bound) (Machine.repeated line limit right bound) done := by
  induction bound generalizing one two with
  | zero => exact .fails (failing one two held)
  | succ bound ih =>
      apply (rounds one two held).seq
      intro outcome oneNext twoNext further
      cases outcome with
      | some completion => exact .yields further
      | none => exact ih further

theorem executes_repeated {left right : Machine (Option Completion)} (line limit bound : Nat)
    (executes : C.Executes room left right) :
    C.Executes room (Machine.repeated line limit left bound) (Machine.repeated line limit right bound) := by
  intro one two ready
  apply runs_repeated line limit bound (fun _ _ ready => laws.failing ready.agree) _ ready
  intro one two ready
  apply (executes one two ready).imp
  rintro oneEnd twoEnd (_ | completion) done
  · exact done.1
  · exact done

theorem executes_tick (line : Nat) :
    C.Executes room (Machine.tick C.left.options line) (Machine.tick C.right.options line) :=
  fun _ _ ready => laws.tick line ready

theorem supports_within_of_limit (same : C.right.options.maxSteps = C.left.options.maxSteps) (room : Nat) :
    C.Supports room (.within C.left room) (.within C.right room) := by
  apply supports_within laws
  intro room restLeft restRight line executes
  unfold Machine.loop
  rw [same]
  apply executes_repeated laws
  exact (executes_tick laws line).seq fun _ => executes

end Within

omit laws in
theorem runs_record {done : State → State → Unit → Prop} (line : Nat) (console : Option Text)
    (event : Option Event) (same : C.right.options.maxSteps = C.left.options.maxSteps)
    (count : two.steps.size = one.steps.size) (failing : C.failing one two)
    (leads : C.leads one (one.recorded C.left.options line console event))
    (finished : done (one.recorded C.left.options line console event) (two.recorded C.right.options line console event)
      ()) :
    C.Runs one two (Machine.record C.left.options line console event)
      (Machine.record C.right.options line console event) done := by
  apply Runs.look
  rw [same, count]
  split
  · exact .fails_seq failing
  · exact .change leads finished

omit laws in
theorem runs_tick {done : State → State → Unit → Prop} (line : Nat)
    (same : C.right.options.maxSteps = C.left.options.maxSteps) (count : two.iterations = one.iterations)
    (failing : C.failing { one with iterations := one.iterations + 1 } { two with iterations := one.iterations + 1 })
    (leads : C.leads one { one with iterations := one.iterations + 1 })
    (finished : done { one with iterations := one.iterations + 1 } { two with iterations := one.iterations + 1 } ()) :
    C.Runs one two (Machine.tick C.left.options line) (Machine.tick C.right.options line) done := by
  apply Runs.change_seq leads
  apply Runs.look
  rw [same, count]
  split
  · exact .fails failing
  · exact .yields finished

theorem runs_declareClasses {decls : List ClassDecl} (members : ∀ decl ∈ decls, decl ∈ C.left.program.classes)
    (agree : C.agree room one two) :
    C.Runs one two (Machine.declareClasses decls) (Machine.declareClasses decls)
      fun oneEnd twoEnd _ => C.agree room oneEnd twoEnd ∧ oneEnd.current = one.current := by
  induction decls generalizing one two with
  | nil =>
      rw [Machine.declareClasses]
      exact .yields ⟨agree, rfl⟩
  | cons decl decls ih =>
      have there := laws.atLine decl.line agree
      have declared := laws.classDeclared there (members decl List.mem_cons_self)
      rw [Machine.declareClasses]
      apply Runs.change_seq (laws.leads_of_same rfl rfl rfl)
      apply (runs_declareIn laws there declared).seq
      rintro - oneNext twoNext ⟨first, second, further, rfl, rfl⟩
      exact ih (fun other member => members other (List.mem_cons_of_mem decl member)) further

section Execution

variable {left right : Evaluator} (supports : C.Supports (maxCallDepth - 1) left right)
include supports

theorem executes_declareAllBy (declarations : List Declaration) :
    C.Executes (maxCallDepth - 1) (Machine.declareAllBy C.left left.toCalls declarations)
      (Machine.declareAllBy C.right right.toCalls declarations) := by
  induction declarations with
  | nil => exact .yields ()
  | cons declaration others ih =>
      rw [Machine.declareAllBy, Machine.declareAllBy]
      exact (executes_declaration laws supports.toCouplesCalls declaration).seq fun _ => ih

theorem executes_initializeStaticsBy (decls : List ClassDecl) :
    C.Executes maxCallDepth (Machine.initializeStaticsBy C.left left.toCalls decls)
      (Machine.initializeStaticsBy C.right right.toCalls decls) := by
  induction decls with
  | nil => exact .yields ()
  | cons decl decls ih =>
      intro one two ready
      have deep : C.agree (maxCallDepth - 1 + 1) one two := ready.agree
      rw [Machine.initializeStaticsBy, Machine.initializeStaticsBy]
      split
      · have above := laws.pushed
          { methodName := "<clinit>", line := decl.line, scope := globalScope, className := decl.name } deep
        simp only [Frame.placed, laws.global deep] at above
        apply Runs.change_seq (laws.leads_of_same rfl rfl rfl)
        apply Runs.seq (executes_declareAllBy laws supports decl.staticFields _ _ ⟨above, ready.current⟩)
        intro _ oneNext twoNext done
        apply Runs.change_seq (laws.leads_of_same rfl rfl rfl)
        exact ih _ _ ⟨laws.popped deep done.1.agree, done.1.current⟩
      · exact ih one two ready

theorem runs_executeBy (agree : C.agree maxCallDepth one two) (outside : one.current = globalScope) :
    C.Runs one two (C.left.executeBy left) (C.right.executeBy right)
      fun oneEnd twoEnd _ => C.agree maxCallDepth oneEnd twoEnd := by
  unfold Context.executeBy
  rw [laws.program]
  apply (runs_declareClasses laws (fun _ member => member) agree).seq
  intro _ oneNext twoNext declared
  obtain ⟨further, same⟩ := declared
  cases C.left.program.entryPoint? with
  | none => exact .fails (laws.failing further)
  | some main =>
      have global : C.shared oneNext.current := .inl (same.trans outside)
      apply Runs.seq (executes_initializeStaticsBy laws supports _ _ _ ⟨further, global⟩)
      intro _ oneReady twoReady done
      have deep : C.agree (maxCallDepth - 1 + 1) oneReady twoReady := done.1.agree
      apply Runs.look
      rw [laws.current deep]
      apply runs_openScope_seq laws deep (opens_global laws deep)
      intro oneOpen twoOpen activation opened own _
      have executes := executes_statements laws supports main.body
      apply (runs_runFrame laws _ executes opened own).seq
      intro _ oneLast twoLast last
      exact .yields last.1

end Execution

end Coupling

end Stepwise
