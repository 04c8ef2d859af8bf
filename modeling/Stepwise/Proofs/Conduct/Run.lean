import Stepwise.Proofs.Conduct.Statement

/-!
# The conduct of runs

However many frames there is room for, calling methods and making objects is conducted, by induction over the room. A
whole run then has two parts: what comes before the entry point, where static fields are initialised, and what runs in
the frame of the entry point.
-/

namespace Stepwise

set_option autoImplicit false

open Machine

namespace Conduct

variable {context : Context} {C : Conduct context} {room : Nat} {calls : Calls} (laws : C.Laws)
include laws

theorem conducts_checkArguments {stage : Stage} (method : Method) (arguments : List Value) (line : Nat) :
    C.Conducts stage (checkArguments method arguments line) fun _ => True :=
  .branch (.yields laws trivial) (.failOn laws line trivial)

theorem conducts_bindParams {stage : Stage} (activation : Nat) (params : List Param) (arguments : List Value) :
    C.Conducts stage (bindParams activation params arguments) fun _ => True := by
  induction params generalizing arguments with
  | nil =>
      rw [bindParams.eq_def]
      exact .yields laws trivial
  | cons param params ih =>
      rw [bindParams.eq_def]
      cases arguments with
      | nil => exact .yields laws trivial
      | cons argument arguments =>
          refine (conducts_declareIn laws activation param.name argument _).seq laws fun _ _ => ?_
          exact (conducts_noteDeclared laws param.name).seq laws fun _ _ => ih arguments

/-- The body of a method in a frame and a scope of its own. A jump out of it is a failure. -/
theorem conducts_runFrame {outer inner : Stage} {frame : Frame} {body : Machine Completion} {jumps : Jump → Prop}
    (activation : Nat) (opens : context.Opens outer frame inner)
    (conducts : C.Conducts inner body (Completion.JumpsBy jumps))
    (astray : ∀ jump, jumps jump → C.tolerates (.bare (.outsideLoop jump))) :
    C.Conducts outer (runFrame frame activation body) fun _ => True := by
  have inside : C.Conducts inner (enterScope activation >>= fun _ => body >>= methodResult) fun _ => True := by
    refine (conducts_enterScope laws activation).seq laws fun _ _ => ?_
    refine conducts.seq laws fun completion jumpsBy => ?_
    cases completion with
    | normal => exact .yields laws trivial
    | returned value => exact .yields laws trivial
    | jump jump => exact .fails (astray jump (jumpsBy jump rfl))
  have leaves : ∀ value : Value, C.Conducts outer (leaveScope activation frame.scope >>= fun _ => pure value) fun _ => True :=
    fun value => (conducts_leaveScope laws activation frame.scope).seq laws fun _ _ => .yields laws trivial
  refine (Conducts.framed laws opens inside fun value _ => leaves value).of_run fun start => ?_
  exact (run_bind_assoc body methodResult _ _).symm

theorem conducts_body (supports : C.Supports room calls) (known : ∀ part ∈ context.program.expressions, C.node part)
    {decl : ClassDecl} {method : Method} {name : String} (member : decl ∈ context.program.classes)
    (found : decl.method? name = some method) :
    C.Conducts (.within room) (Stmt.execAll context calls method.body)
      (Completion.JumpsBy fun jump => Stmt.LeavesAny jump method.body) :=
  conducts_execAll laws supports method.body
    (ClassDecl.expressions_of_method? (Program.expressions_of_mem known member) found)

theorem conducts_initialFields (supports : C.Supports room calls) {declarations : List Declaration}
    (known : ∀ declaration ∈ declarations, ∀ part ∈ declaration.expressions, C.node part)
    (fields : List (String × Value)) :
    C.Conducts (.within room) (initialFields context calls fields declarations) fun _ => True := by
  induction declarations generalizing fields with
  | nil =>
      rw [initialFields]
      exact .yields laws trivial
  | cons declaration others ih =>
      rw [initialFields]
      have own := known declaration List.mem_cons_self
      have later := fun fields => ih (fun other member => known other (List.mem_cons_of_mem _ member)) fields
      have finish : ∀ value : Value, C.Conducts (.within room)
          (ofOutcome (value.coerce (some declaration.typeName)) >>= fun stored =>
            initialFields context calls (Pairs.put declaration.name stored fields) others) fun _ => True :=
        fun value => Conducts.seq laws (.unlined laws (value.unlined_coerce _)) fun stored _ => later _
      obtain ⟨line, typeName, name, value, isStatic⟩ := declaration
      cases value with
      | some expression =>
          exact Conducts.seq laws (evaluates_expression laws supports expression own) fun value _ => finish value
      | none => exact (finish (Value.default typeName)).of_run fun _ => rfl

/-- However many frames there is room for, calls and creations are conducted. -/
theorem supports_within (known : ∀ part ∈ context.program.expressions, C.node part) (room : Nat) :
    C.Supports room (Calls.within context room) := by
  induction room with
  | zero =>
      rw [Calls.within]
      constructor
      · intro method className arguments line declares
        exact (conducts_checkArguments laws method arguments line).seq laws fun _ _ => .failOn laws line trivial
      · intro decl member
        exact .fail laws trivial
  | succ room ih =>
      rw [Calls.within]
      constructor
      · intro method className arguments line declares
        obtain ⟨decl, name, present, found⟩ := declares
        refine (conducts_checkArguments laws method arguments line).seq laws fun _ _ => ?_
        refine (conducts_openScope laws globalScope).seq laws fun activation _ => ?_
        refine (conducts_bindParams laws activation method.params arguments).seq laws fun _ _ => ?_
        refine .look fun state => ?_
        refine conducts_runFrame laws activation (.call ⟨decl, name, present, found⟩ _ room)
          (conducts_body laws ih known (Program.class?_eq_some present).2 found) fun jump leaves => ?_
        exact laws.astray method leaves (.inl ⟨className, decl, name, present, found⟩)
      · intro decl member
        have fields : ∀ declaration ∈ decl.instanceFields, ∀ part ∈ declaration.expressions, C.node part :=
          fun declaration declared =>
            ClassDecl.expressions_of_field (Program.expressions_of_mem known member) (List.mem_filter.mp declared).1
        refine .look fun state => ?_
        refine (conducts_enterScope laws globalScope).seq laws fun _ _ => ?_
        have inside : C.Conducts (.within room)
            (initialFields context (Calls.within context room) [] decl.instanceFields >>= fun fields =>
              enterScope state.current >>= fun _ => pure fields) fun _ => True := by
          refine (conducts_initialFields laws ih fields []).seq laws fun fields _ => ?_
          exact (conducts_enterScope laws state.current).seq laws fun _ _ => .yields laws trivial
        have made : ∀ fields, C.Conducts (.within (room + 1)) (pure (Cell.object decl.name fields)) fun _ => True :=
          fun fields => .yields laws trivial
        refine (Conducts.framed laws (.creation member state.current room) inside fun fields _ => made fields).of_run
          fun start => ?_
        exact (run_bind_assoc (initialFields context (Calls.within context room) [] decl.instanceFields)
          (fun fields => enterScope state.current >>= fun _ => pure fields) _ _).symm

theorem conducts_declareClasses {stage : Stage} (decls : List ClassDecl) :
    C.Conducts stage (declareClasses decls) fun _ => True := by
  induction decls with
  | nil => exact .yields laws trivial
  | cons decl decls ih =>
      rw [declareClasses]
      refine (conducts_atLine laws decl.line).seq laws fun _ _ => ?_
      exact (conducts_declareIn laws globalScope decl.name _ none).seq laws fun _ _ => ih

variable (known : ∀ part ∈ context.program.expressions, C.node part)
include known

theorem conducts_declareAll {declarations : List Declaration}
    (inner : ∀ declaration ∈ declarations, ∀ part ∈ declaration.expressions, C.node part) :
    C.Conducts (.within (maxCallDepth - 1)) (declareAll context declarations) fun _ => True := by
  induction declarations with
  | nil => exact .yields laws trivial
  | cons declaration others ih =>
      rw [declareAll]
      refine (conducts_declaration laws (supports_within laws known _) declaration
        (inner declaration List.mem_cons_self)).seq laws fun _ _ => ?_
      exact ih fun other member => inner other (List.mem_cons_of_mem _ member)

theorem conducts_initializeStatics {decls : List ClassDecl} (inside : ∀ decl ∈ decls, decl ∈ context.program.classes) :
    C.Conducts .statics (initializeStatics context decls) fun _ => True := by
  induction decls with
  | nil => exact .yields laws trivial
  | cons decl decls ih =>
      rw [initializeStatics]
      have member := inside decl List.mem_cons_self
      have later := ih fun other among => inside other (List.mem_cons_of_mem _ among)
      refine .branch ?_ later
      refine Conducts.framed laws (.statics member) (conducts_declareAll laws known ?_) fun _ _ => later
      exact fun declaration declared =>
        ClassDecl.expressions_of_field (Program.expressions_of_mem known member) (List.mem_filter.mp declared).1

theorem conducts_entry {main : Method} (found : context.program.entryPoint? = some main) :
    C.Conducts .entry
      (do
        let outer := (← get).current
        let activation ← openScope globalScope
        let frame : Frame := { methodName := "main", line := main.line, scope := outer, className := "Main" }
        let _ ← runFrame frame activation (Stmt.execAll context (Calls.outermost context) main.body))
      fun _ => True := by
  obtain ⟨decl, present, named⟩ := Option.bind_eq_some_iff.mp found
  refine .look fun state => ?_
  refine (conducts_openScope laws globalScope).seq laws fun activation _ => ?_
  have body := conducts_body laws (supports_within laws known (maxCallDepth - 1)) known
    (Program.class?_eq_some present).2 named
  refine (conducts_runFrame laws activation (.entry found state.current) body fun jump leaves => ?_).seq laws
    fun _ _ => .yields laws trivial
  exact laws.astray main leaves (.inr found)

/-- A run that completes has initialised the static fields and then run the entry point; one that fails does so as is
tolerated. -/
theorem execute_conducted :
    (∀ {final : State}, context.execute.run State.initial = .ok () final →
      ∃ between, C.leads .statics State.initial between ∧ C.leads .entry between final) ∧
      ∀ {failure : Failure} {final : State}, context.execute.run State.initial = .error failure final →
        C.tolerates failure := by
  have declares : C.Conducts .statics (declareClasses context.program.classes) fun _ => True :=
    conducts_declareClasses laws _
  have initialises := conducts_initializeStatics laws known fun decl member => member
  constructor
  · intro final ended
    obtain ⟨_, declared, begun, ended⟩ := run_bind_eq_ok.mp ended
    split at ended
    · cases ended
    · next main found =>
        obtain ⟨_, between, initialised, ended⟩ := run_bind_eq_ok.mp ended
        refine ⟨between, laws.trans (declares.ending begun).1 (initialises.ending initialised).1, ?_⟩
        exact ((conducts_entry laws known found).ending ended).1
  · intro failure final ended
    rcases run_bind_eq_error.mp ended with failed | ⟨_, declared, -, ended⟩
    · exact declares.failing failed
    · split at ended
      · cases ended
        exact laws.ordinary trivial
      · next main found =>
          rcases run_bind_eq_error.mp ended with failed | ⟨_, between, -, failed⟩
          · exact initialises.failing failed
          · exact (conducts_entry laws known found).failing failed

end Conduct

end Stepwise
