import Stepwise.Proofs.Discipline.Operations
import Stepwise.Proofs.Failures

/-!
# Conducts: from the beginning of a computation to its end

A conduct says how the state in which a computation completes follows the one in which it began, and which failures may
end it. Other than a discipline it asks nothing of the state in which the computation begins, and it follows the call
stack and the recorded steps only, so that it is stated of a computation once and for all states. What it says depends
on where in a run the computation stands, since only what runs in a frame records steps.

This module states what a conduct has to guarantee, and derives how the operations of the machine are conducted;
`Conduct.Expression` and its successors carry this through the whole syntax to whole runs.
-/

namespace Stepwise

set_option autoImplicit false

/-- Where a computation of a run stands: among the initialisers of static fields, around the entry point, or in a frame,
with room for so many more. -/
inductive Stage
  | statics
  | entry
  | within (room : Nat)

/-- The frames that a run pushes, from one stage to another. -/
inductive Context.Opens (context : Context) : Stage → Frame → Stage → Prop
  | statics {decl : ClassDecl} (member : decl ∈ context.program.classes) :
      Opens context .statics
        { methodName := "<clinit>", line := decl.line, scope := globalScope, className := decl.name }
        (.within (maxCallDepth - 1))
  | entry {main : Method} (found : context.program.entryPoint? = some main) (scope : Nat) :
      Opens context .entry { methodName := "main", line := main.line, scope, className := "Main" }
        (.within (maxCallDepth - 1))
  | call {method : Method} {className : String} (declares : context.Declares method className) (scope room : Nat) :
      Opens context (.within (room + 1)) { methodName := method.name, line := method.line, scope, className }
        (.within room)
  | creation {decl : ClassDecl} (member : decl ∈ context.program.classes) (scope room : Nat) :
      Opens context (.within (room + 1))
        { methodName := "<init>", line := decl.line, scope, className := decl.name } (.within room)

/-- An expression is of no form that can be evaluated: its operator or its target is none. The issue is what its
evaluation reports. -/
inductive Expr.Unfit : Expr → Issue → Prop
  | binary {line : Nat} {left right : Expr} {operator : String} (unknown : BinaryOperator.ofSpelling? operator = none) :
      Unfit (.binary line left operator right) (.unsupportedOperator operator)
  | unary {line : Nat} {operator : String} {argument : Expr} (unknown : operator ≠ "!" ∧ operator ≠ "-") :
      Unfit (.unary line operator argument) (.unsupportedUnary operator)
  | compound {line : Nat} {target value : Expr} {operator : String}
      (unknown : BinaryOperator.ofSpelling? (compoundOperator operator) = none) :
      Unfit (.compound line target operator value) (.unsupportedOperator (compoundOperator operator))
  | assign {line : Nat} {target value : Expr} (misplaced : target.isTarget = false) :
      Unfit (.assign line target value) .invalidTarget
  | compoundAssign {line : Nat} {target value : Expr} {operator : String} (misplaced : target.isTarget = false) :
      Unfit (.compound line target operator value) .invalidTarget

/-- A jump stands in a statement, outside of the loops in it. -/
inductive Stmt.Leaves (jump : Jump) : Stmt → Prop
  | break_ (line : Nat) (same : jump = .break_) : Leaves jump (.break_ line)
  | continue_ (line : Nat) (same : jump = .continue_) : Leaves jump (.continue_ line)
  | block (line : Nat) {body : List Stmt} {statement : Stmt} (member : statement ∈ body)
      (leaves : Leaves jump statement) : Leaves jump (.block line body)
  | ifThen (line : Nat) (test : Expr) {consequent : Stmt} (leaves : Leaves jump consequent) :
      Leaves jump (.ifThen line test consequent)
  | consequent (line : Nat) (test : Expr) {consequent : Stmt} (alternate : Stmt) (leaves : Leaves jump consequent) :
      Leaves jump (.ifElse line test consequent alternate)
  | alternate (line : Nat) (test : Expr) (consequent : Stmt) {alternate : Stmt} (leaves : Leaves jump alternate) :
      Leaves jump (.ifElse line test consequent alternate)

def Stmt.LeavesAny (jump : Jump) (statements : List Stmt) : Prop :=
  ∃ statement ∈ statements, Stmt.Leaves jump statement

/-- What a run does between two of its states, and what may end it. -/
structure Conduct (context : Context) where
  /-- What is known of the expressions of the program. -/
  node : Expr → Prop
  /-- How the state in which a computation completes follows the one in which it began. -/
  leads : Stage → State → State → Prop
  tolerates : Failure → Prop

namespace Conduct

variable {context : Context}

structure Laws (C : Conduct context) : Prop where
  trans : ∀ {stage first second third}, C.leads stage first second → C.leads stage second third →
    C.leads stage first third
  quiet : ∀ {before after : State} stage, after.frames = before.frames → after.steps = before.steps →
    C.leads stage before after
  recorded : ∀ room line console event state,
    C.leads (.within room) state (state.recorded context.options line console event)
  framed : ∀ {outer frame inner before inside}, context.Opens outer frame inner →
    C.leads inner { before with frames := frame :: before.frames } inside →
    C.leads outer before { inside with frames := inside.frames.tail }
  ordinary : ∀ {failure : Failure}, failure.Ordinary → C.tolerates failure
  unfit : ∀ {expression cause} line, C.node expression → expression.Unfit cause → C.tolerates (.onLine line cause)
  astray : ∀ {jump} (method : Method), Stmt.LeavesAny jump method.body →
    (∃ className, context.Declares method className) ∨ context.program.entryPoint? = some method →
    C.tolerates (.bare (.outsideLoop jump))

/-- The conduct that asks for nothing, so that only what the syntax says of completions is left. -/
def free (context : Context) : Conduct context where
  node _ := True
  leads _ _ _ := True
  tolerates _ := True

theorem free_laws (context : Context) : (free context).Laws where
  trans _ _ := trivial
  quiet _ _ _ := trivial
  recorded _ _ _ _ _ := trivial
  framed _ _ := trivial
  ordinary _ := trivial
  unfit _ _ _ := trivial
  astray _ _ _ := trivial

/-- Wherever it is begun, a computation completes as the conduct has it, with a result as required, or it fails as is
tolerated. -/
structure Conducts (C : Conduct context) (stage : Stage) {α : Type} (computation : Machine α) (required : α → Prop) :
    Prop where
  ending : ∀ {start final result}, computation.run start = .ok result final →
    C.leads stage start final ∧ required result
  failing : ∀ {start final failure}, computation.run start = .error failure final → C.tolerates failure

section Rules

variable {C : Conduct context} {stage : Stage} {room : Nat} {α β : Type}

namespace Conducts

theorem imp {computation : Machine α} {required weaker : α → Prop} (conducts : C.Conducts stage computation required)
    (weakens : ∀ result, required result → weaker result) : C.Conducts stage computation weaker where
  ending ended := ⟨(conducts.ending ended).1, weakens _ (conducts.ending ended).2⟩
  failing := conducts.failing

theorem of_run {computation other : Machine α} {required : α → Prop} (conducts : C.Conducts stage other required)
    (same : ∀ start, computation.run start = other.run start) : C.Conducts stage computation required where
  ending ended := conducts.ending (by rw [← same, ended])
  failing ended := conducts.failing (by rw [← same, ended])

theorem look {next : State → Machine α} {required : α → Prop}
    (conducts : ∀ state, C.Conducts stage (next state) required) :
    C.Conducts stage ((get : Machine State) >>= next) required where
  ending ended := (conducts _).ending ended
  failing ended := (conducts _).failing ended

theorem mark_seq {sign : Mark} {next : Unit → Machine α} {required : α → Prop}
    (conducts : C.Conducts stage (next ()) required) :
    C.Conducts stage (Machine.mark sign >>= next) required where
  ending ended := conducts.ending ended
  failing ended := conducts.failing ended

theorem branch {condition : Prop} {decide : Decidable condition} {yes no : Machine α} {required : α → Prop}
    (first : C.Conducts stage yes required) (second : C.Conducts stage no required) :
    C.Conducts stage (if condition then yes else no) required := by
  split
  · exact first
  · exact second

theorem fails {failure : Failure} {required : α → Prop} (tolerated : C.tolerates failure) :
    C.Conducts stage (Machine.raise failure : Machine α) required where
  ending := nofun
  failing ended := by
    cases ended
    exact tolerated

variable (laws : C.Laws)
include laws

theorem yields {result : α} {required : α → Prop} (holds : required result) :
    C.Conducts stage (pure result : Machine α) required where
  ending ended := by
    cases ended
    exact ⟨laws.quiet stage rfl rfl, holds⟩
  failing := nofun

theorem seq {first : Machine α} {next : α → Machine β} {middle : α → Prop} {required : β → Prop}
    (conducts : C.Conducts stage first middle)
    (others : ∀ result, middle result → C.Conducts stage (next result) required) :
    C.Conducts stage (first >>= next) required where
  ending ended := by
    obtain ⟨value, between, ended, followed⟩ := Machine.run_bind_eq_ok.mp ended
    obtain ⟨begun, holds⟩ := conducts.ending ended
    obtain ⟨continued, finished⟩ := (others value holds).ending followed
    exact ⟨laws.trans begun continued, finished⟩
  failing ended := by
    rcases Machine.run_bind_eq_error.mp ended with failed | ⟨value, between, ended, failed⟩
    · exact conducts.failing failed
    · exact (others value (conducts.ending ended).2).failing failed

/-- A change of the state that touches neither the call stack nor the steps. -/
theorem change {update : State → State} (frames : ∀ state, (update state).frames = state.frames)
    (steps : ∀ state, (update state).steps = state.steps) :
    C.Conducts stage (modify update : Machine Unit) fun _ => True where
  ending ended := by
    cases ended
    exact ⟨laws.quiet stage (frames _) (steps _), trivial⟩
  failing := nofun

theorem failOn {issue : Issue} {required : α → Prop} (line : Nat) (ordinary : issue.Ordinary) :
    C.Conducts stage (Machine.failOn line issue : Machine α) required :=
  fails (laws.ordinary ordinary)

theorem fail {issue : Issue} {required : α → Prop} (ordinary : issue.Ordinary) :
    C.Conducts stage (Machine.fail issue : Machine α) required :=
  fails (laws.ordinary ordinary)

theorem fault {cause : Fault} {required : α → Prop} :
    C.Conducts stage (Machine.raise (.fault cause) : Machine α) required :=
  fails (laws.ordinary trivial)

theorem ofOutcome {outcome : Except Failure α}
    (tolerated : ∀ failure, outcome = .error failure → C.tolerates failure) :
    C.Conducts stage (Machine.ofOutcome outcome) fun _ => True := by
  cases outcome with
  | ok value => exact yields laws trivial
  | error failure => exact fails (tolerated failure rfl)

theorem ordinary {outcome : Except Failure α} (fails : FailsOrdinarily outcome) :
    C.Conducts stage (Machine.ofOutcome outcome) fun _ => True :=
  ofOutcome laws fun failure failed => laws.ordinary (fails failure failed)

theorem unlined {outcome : Except Failure α} (unlined : Unlined outcome) :
    C.Conducts stage (Machine.ofOutcome outcome) fun _ => True :=
  ordinary laws unlined.ordinary

/-- A computation in a frame of its own, which is popped when it completes. -/
theorem framed {outer inner : Stage} {frame : Frame} {body : Machine α} {next : α → Machine β} {middle : α → Prop}
    {required : β → Prop} (opens : context.Opens outer frame inner) (conducts : C.Conducts inner body middle)
    (others : ∀ result, middle result → C.Conducts outer (next result) required) :
    C.Conducts outer
      (Machine.pushFrame frame >>= fun _ => body >>= fun result => Machine.popFrame >>= fun _ => next result)
      required where
  ending {start final result} ended := by
    have pushed : (body >>= fun result => Machine.popFrame >>= fun _ => next result).run
        { start with frames := frame :: start.frames } = .ok result final := ended
    obtain ⟨value, inside, ended, followed⟩ := Machine.run_bind_eq_ok.mp pushed
    obtain ⟨begun, holds⟩ := conducts.ending ended
    obtain ⟨continued, finished⟩ := (others value holds).ending followed
    exact ⟨laws.trans (laws.framed opens begun) continued, finished⟩
  failing {start final failure} ended := by
    have pushed : (body >>= fun result => Machine.popFrame >>= fun _ => next result).run
        { start with frames := frame :: start.frames } = .error failure final := ended
    rcases Machine.run_bind_eq_error.mp pushed with failed | ⟨value, inside, ended, failed⟩
    · exact conducts.failing failed
    · exact (others value (conducts.ending ended).2).failing failed

end Conducts

variable (laws : C.Laws)
include laws

theorem conducts_record (line : Nat) (console : Option Text) (event : Option Event) :
    C.Conducts (.within room) (Machine.record context.options line console event) fun _ => True where
  ending ended := by
    rw [Machine.run_record] at ended
    split at ended
    · cases ended
    · cases ended
      exact ⟨laws.recorded room line console event _, trivial⟩
  failing ended := by
    rw [Machine.run_record] at ended
    split at ended
    · cases ended
      exact laws.ordinary trivial
    · cases ended

theorem conducts_record_yield {result : α} {required : α → Prop} (line : Nat) (console : Option Text)
    (event : Option Event) (holds : required result) :
    C.Conducts (.within room) (Machine.record context.options line console event >>= fun _ => pure result) required :=
  (conducts_record laws line console event).seq laws fun _ _ => .yields laws holds

theorem conducts_tick (line : Nat) : C.Conducts stage (Machine.tick context.options line) fun _ => True := by
  refine Conducts.seq laws (.change laws (fun _ => rfl) fun _ => rfl) fun _ _ => ?_
  exact .look fun _ => .branch (.failOn laws line trivial) (.yields laws trivial)

theorem conducts_atLine (line : Nat) : C.Conducts stage (Machine.atLine line) fun _ => True :=
  .change laws (fun _ => rfl) fun _ => rfl

theorem conducts_lookup (name : String) : C.Conducts stage (Machine.lookup name) fun _ => True :=
  .look fun state => .unlined laws (state.scopes.unlined_lookup state.current name)

theorem conducts_noteDeclared (name : String) : C.Conducts stage (Machine.noteDeclared name) fun _ => True := by
  refine .change laws (fun state => ?_) fun state => ?_
  all_goals split <;> rfl

theorem conducts_declareIn (scope : Nat) (name : String) (value : Value) (typeName : Option String) :
    C.Conducts stage (Machine.declareIn scope name value typeName) fun _ => True := by
  refine .look fun state => ?_
  refine Conducts.seq laws (.unlined laws (state.scopes.unlined_declare scope name value typeName)) fun declared _ => ?_
  exact .change laws (fun _ => rfl) fun _ => rfl

theorem conducts_openScope (parent : Nat) : C.Conducts stage (Machine.openScope parent) fun _ => True := by
  refine .look fun state => ?_
  exact Conducts.seq laws (.change laws (fun _ => rfl) fun _ => rfl) fun _ _ => .yields laws trivial

theorem conducts_enterScope (handle : Nat) : C.Conducts stage (Machine.enterScope handle) fun _ => True :=
  .change laws (fun _ => rfl) fun _ => rfl

theorem conducts_leaveScope (handle outer : Nat) : C.Conducts stage (Machine.leaveScope handle outer) fun _ => True :=
  .mark_seq (.change laws (fun _ => rfl) fun _ => rfl)

theorem conducts_inScope {body : Machine α} {required : α → Prop} (conducts : C.Conducts stage body required) :
    C.Conducts stage (Machine.inScope body) required := by
  refine .look fun state => ?_
  refine (conducts_openScope laws state.current).seq laws fun handle _ => ?_
  refine (conducts_enterScope laws handle).seq laws fun _ _ => ?_
  refine conducts.seq laws fun result holds => ?_
  exact (conducts_leaveScope laws handle state.current).seq laws fun _ _ => .yields laws holds

theorem conducts_allocate (line : Nat) (cell : Cell) :
    C.Conducts (.within room) (Machine.allocate context.options line cell) fun _ => True := by
  refine .look fun state => ?_
  refine Conducts.seq laws (.change laws (fun _ => rfl) fun _ => rfl) fun _ _ => ?_
  exact conducts_record_yield laws line none _ trivial

theorem conducts_dereference (value : Value) (action : String) (line : Nat) :
    C.Conducts stage (Machine.dereference value action line) fun _ => True := by
  cases value with
  | ref handle =>
      refine .look fun state => ?_
      split
      · exact .yields laws trivial
      · exact .fault laws
  | null => exact .failOn laws line trivial
  | _ => exact .failOn laws line trivial

theorem conducts_ofName (name : String) : C.Conducts stage (Slot.ofName name) fun _ => True := by
  refine .look fun state => ?_
  refine Conducts.seq laws (.unlined laws (state.scopes.unlined_resolve state.current name)) fun _ _ => ?_
  exact .yields laws trivial

theorem conducts_ofIndex (line : Nat) (container index : Value) :
    C.Conducts stage (Slot.ofIndex line container index) fun _ => True := by
  refine (conducts_dereference laws container _ line).seq laws fun found _ => ?_
  obtain ⟨handle, cell⟩ := found
  cases cell with
  | object className fields => exact .failOn laws line trivial
  | array elementType values =>
      dsimp only
      split
      · exact .failOn laws line trivial
      · refine .branch (.yields laws trivial) ?_
        exact Conducts.seq laws (.unlined laws (unlined_liftFault _)) fun _ _ => .failOn laws line trivial

theorem conducts_ofField (line : Nat) (container : Value) (name : String) :
    C.Conducts stage (Slot.ofField line container name) fun _ => True := by
  refine (conducts_dereference laws container _ line).seq laws fun found _ => ?_
  obtain ⟨handle, cell⟩ := found
  cases cell with
  | object className fields => exact .yields laws trivial
  | array elementType values => exact .branch (.yields laws trivial) (.failOn laws line trivial)

theorem conducts_read (slot : Slot) : C.Conducts stage slot.read fun _ => True := by
  cases slot with
  | binding scope name => exact .look fun state => .unlined laws (state.scopes.unlined_lookup scope name)
  | element handle position =>
      refine .look fun state => ?_
      split
      · split
        · exact .yields laws trivial
        · exact .fault laws
      · exact .fault laws
  | field handle name =>
      refine .look fun state => ?_
      split
      · split
        · exact .yields laws trivial
        · exact .fail laws trivial
      · exact .fault laws
  | length size => exact .yields laws trivial

theorem conducts_write (slot : Slot) (value : Value) : C.Conducts stage (slot.write value) fun _ => True := by
  have stores : ∀ (update : State → State) (stored : Value), (∀ state, (update state).frames = state.frames) →
      (∀ state, (update state).steps = state.steps) →
      C.Conducts stage (modify update >>= fun _ => pure stored : Machine Value) fun _ => True :=
    fun update stored frames steps =>
      (Conducts.change laws frames steps).seq laws fun _ _ => .yields laws trivial
  cases slot with
  | binding scope name =>
      refine .look fun state => ?_
      refine Conducts.seq laws (.unlined laws (state.scopes.unlined_assign scope name value)) fun assigned _ => ?_
      exact stores _ _ (fun _ => rfl) fun _ => rfl
  | element handle position =>
      refine .look fun state => ?_
      split
      · refine Conducts.seq laws (.unlined laws (value.unlined_coerce _)) fun stored _ => ?_
        exact stores _ _ (fun _ => rfl) fun _ => rfl
      · exact .fault laws
  | field handle name =>
      refine .look fun state => ?_
      split
      · exact stores _ _ (fun _ => rfl) fun _ => rfl
      · exact .fault laws
  | length size => exact .fail laws trivial

theorem conducts_truth (line : Nat) (value : Value) : C.Conducts stage (Machine.truth line value) fun _ => True := by
  cases value with
  | bool value => exact .yields laws trivial
  | _ => exact .failOn laws line trivial

theorem conducts_writeConsole (line : Nat) (method : ConsoleMethod) (arguments : List Value) :
    C.Conducts (.within room) (Machine.writeConsole context.options line method arguments) fun _ => True := by
  refine .look fun state => ?_
  refine Conducts.seq laws (.unlined laws (method.unlined_output state.heap arguments)) fun output _ => ?_
  exact conducts_record_yield laws line _ none trivial

theorem conducts_binary {operator : String} (line : Nat) (heap : Heap) (left right : Value)
    (known : BinaryOperator.ofSpelling? operator = none → C.tolerates (.onLine line (.unsupportedOperator operator))) :
    C.Conducts stage (Machine.ofOutcome (Value.binary heap line operator left right)) fun _ => True := by
  refine .ofOutcome laws fun failure failed => ?_
  rcases Value.ordinary_or_unsupported failed with ordinary | ⟨unknown, rfl⟩
  · exact laws.ordinary ordinary
  · exact known unknown

theorem conducts_applyBinary {operator : String} (line : Nat) (left right : Value)
    (known : BinaryOperator.ofSpelling? operator = none → C.tolerates (.onLine line (.unsupportedOperator operator))) :
    C.Conducts (.within room) (Machine.applyBinary context.options line operator left right) fun _ => True := by
  refine .look fun state => ?_
  refine (conducts_binary laws line state.heap left right known).seq laws fun result _ => ?_
  exact conducts_record_yield laws line none none trivial

theorem conducts_applyUnary {operator : String} (line : Nat) (value : Value)
    (known : operator ≠ "!" ∧ operator ≠ "-" → C.tolerates (.onLine line (.unsupportedUnary operator))) :
    C.Conducts (.within room) (Machine.applyUnary context.options line operator value) fun _ => True := by
  have applied : C.Conducts (.within room) (Machine.ofOutcome (value.unary line operator)) fun _ => True := by
    refine .ofOutcome laws fun failure failed => ?_
    rcases Value.ordinary_or_unsupportedUnary failed with ordinary | ⟨unknown, rfl⟩
    · exact laws.ordinary ordinary
    · exact known unknown
  exact applied.seq laws fun result _ => conducts_record_yield laws line none none trivial

theorem conducts_store (line : Nat) (slot : Slot) (value : Value) :
    C.Conducts (.within room) (Machine.store context.options line slot value) fun _ => True :=
  (conducts_write laws slot value).seq laws fun _ _ => conducts_record_yield laws line none none trivial

theorem conducts_storeCompound {operator : String} (line : Nat) (slot : Slot) (current operand : Value)
    (known : BinaryOperator.ofSpelling? (compoundOperator operator) = none →
      C.tolerates (.onLine line (.unsupportedOperator (compoundOperator operator)))) :
    C.Conducts (.within room) (Machine.storeCompound context.options line operator slot current operand)
      fun _ => True := by
  refine .look fun state => ?_
  refine (conducts_binary laws line state.heap current operand known).seq laws fun result _ => ?_
  refine Conducts.seq laws (.unlined laws (current.unlined_narrowedLike result)) fun narrowed _ => ?_
  exact conducts_store laws line slot narrowed

theorem conducts_updateVariable (line : Nat) (form : UpdateForm) (operator name : String) :
    C.Conducts (.within room) (Machine.updateVariable context.options line form operator name) fun _ => True := by
  refine .look fun state => ?_
  refine (conducts_read laws _).seq laws fun current _ => ?_
  refine Conducts.seq laws (.ordinary laws (current.ordinary_stepped line operator)) fun next _ => ?_
  refine (conducts_store laws line _ next).seq laws fun stored _ => ?_
  exact .yields laws trivial

theorem conducts_makeArray (line : Nat) (elementType : String) (size : Value) :
    C.Conducts (.within room) (Machine.makeArray context.options line elementType size) fun _ => True := by
  unfold Machine.makeArray
  split
  · exact .failOn laws line trivial
  · refine .branch ?_ (conducts_allocate laws line _)
    exact Conducts.seq laws (.unlined laws (unlined_liftFault _)) fun _ _ => .failOn laws line trivial

theorem conducts_literalChar (raw : String) : C.Conducts stage (Machine.literalChar raw) fun _ => True := by
  unfold Machine.literalChar
  split
  · exact .yields laws trivial
  · exact .fault laws

end Rules

end Conduct

end Stepwise
