import Stepwise.Proofs.Conduct
import Stepwise.Proofs.Discipline.Expression

/-!
# The conduct of expressions

Evaluating an expression is conducted if calling methods and making objects is. The induction is over the expression;
what is known of the expressions of the program is handed down to its parts, and rules out that an operator or a target
is none.
-/

namespace Stepwise

set_option autoImplicit false

open Machine

namespace Conduct

variable {context : Context} {C : Conduct context} {room : Nat} {calls : Calls}

structure Supports (C : Conduct context) (room : Nat) (calls : Calls) : Prop where
  invoke : ∀ {method : Method} {className : String} (arguments : List Value) (line : Nat),
    context.Declares method className →
    C.Conducts (.within room) (calls.invoke method className arguments line) fun _ => True
  instantiate : ∀ {decl : ClassDecl}, decl ∈ context.program.classes →
    C.Conducts (.within room) (calls.instantiate decl) fun _ => True

def Evaluates (C : Conduct context) (room : Nat) (calls : Calls) (expression : Expr) : Prop :=
  C.Conducts (.within room) (expression.eval context calls) fun _ => True

theorem Evaluates.of_body {expression : Expr} {body : Machine Value}
    (opens : expression.eval context calls = mark (.evaluating expression) >>= fun _ => body)
    (conducts : C.Conducts (.within room) body fun _ => True) : C.Evaluates room calls expression := by
  unfold Evaluates
  rw [opens]
  exact .mark_seq conducts

/-- What the induction over an expression carries. An expression has a slot if it is a target, and the object of a
member access is evaluated by itself when the access is what a call calls. -/
structure Treats (C : Conduct context) (room : Nat) (calls : Calls) (expression : Expr) : Prop where
  evaluates : C.Evaluates room calls expression
  locates : (expression.isTarget = false → ∀ line, C.tolerates (.onLine line .invalidTarget)) →
    C.Conducts (.within room) (expression.locate context calls) fun _ => True
  object : ∀ line object nameLine name, expression = .field line object nameLine name → C.Evaluates room calls object

theorem Treats.of_evaluates {expression : Expr} (evaluates : C.Evaluates room calls expression)
    (refused : expression.locate context calls = failOn expression.line .invalidTarget)
    (other : expression.isTarget = false) : C.Treats room calls expression := by
  refine ⟨evaluates, ?_, ?_⟩
  · intro tolerated
    rw [refused]
    exact .fails (tolerated other _)
  · rintro line object nameLine name rfl
    cases other

variable (laws : C.Laws)
include laws

theorem conducts_evalAll {expressions : List Expr}
    (evaluated : ∀ expression ∈ expressions, C.Evaluates room calls expression) :
    C.Conducts (.within room) (Expr.evalAll context calls expressions) fun _ => True := by
  induction expressions with
  | nil =>
      rw [Expr.evalAll.eq_1]
      exact .yields laws trivial
  | cons expression others ih =>
      rw [Expr.evalAll.eq_2]
      refine Conducts.seq laws (evaluated expression List.mem_cons_self) fun value _ => ?_
      refine (ih fun other member => evaluated other (List.mem_cons_of_mem _ member)).seq laws fun values _ => ?_
      exact .yields laws trivial

theorem conducts_evalElements {expressions : List Expr} (elementType : String)
    (evaluated : ∀ expression ∈ expressions, C.Evaluates room calls expression) :
    C.Conducts (.within room) (Expr.evalElements context calls elementType expressions) fun _ => True := by
  induction expressions with
  | nil =>
      rw [Expr.evalElements.eq_1]
      exact .yields laws trivial
  | cons expression others ih =>
      rw [Expr.evalElements.eq_2]
      refine Conducts.seq laws (evaluated expression List.mem_cons_self) fun value _ => ?_
      refine Conducts.seq laws (.unlined laws (value.unlined_coerce _)) fun stored _ => ?_
      refine (ih fun other member => evaluated other (List.mem_cons_of_mem _ member)).seq laws fun values _ => ?_
      exact .yields laws trivial

theorem conducts_arrayOf {values : List Expr} (line : Nat) (elementType : String)
    (evaluated : ∀ value ∈ values, C.Evaluates room calls value) :
    C.Conducts (.within room)
      (Expr.evalElements context calls elementType values >>= fun items =>
        allocate context.options line (.array elementType items.toArray)) fun _ => True :=
  (conducts_evalElements laws elementType evaluated).seq laws fun _ _ => conducts_allocate laws line _

theorem conducts_methodNamed {stage : Stage} (line : Nat) (name : String) :
    C.Conducts stage (methodNamed context line name) fun found => context.Declares found.1 found.2 := by
  have conducts : C.Conducts stage (methodNamed context line name) fun _ => True := by
    have current : C.Conducts stage currentClass fun _ => True := by
      refine .look fun state => ?_
      split <;> exact .yields laws trivial
    refine current.seq laws fun className _ => ?_
    split
    · exact .yields laws trivial
    · exact .failOn laws line trivial
  exact ⟨fun ended => ⟨(conducts.ending ended).1, methodNamed_eq_ok ended⟩, conducts.failing⟩

theorem conducts_methodOf {stage : Stage} (line : Nat) (receiver : Value) (name : String) :
    C.Conducts stage (methodOf context line receiver name) fun found => context.Declares found.1 found.2 := by
  have conducts : C.Conducts stage (methodOf context line receiver name) fun _ => True := by
    unfold methodOf
    extract_lets following
    have follows : C.Conducts stage (following ()) fun _ => True := by
      refine (conducts_dereference laws receiver _ line).seq laws fun found _ => ?_
      obtain ⟨handle, cell⟩ := found
      cases cell with
      | array elementType values => exact .failOn laws line trivial
      | object className fields =>
          dsimp only
          split
          · exact .yields laws trivial
          · exact .failOn laws line trivial
    have refused : C.Conducts stage (failOn line .staticCall : Machine Unit) fun _ => True := .failOn laws line trivial
    exact .branch (refused.seq laws fun _ _ => follows) follows
  exact ⟨fun ended => ⟨(conducts.ending ended).1, methodOf_eq_ok ended⟩, conducts.failing⟩

theorem conducts_makeObject (supports : C.Supports room calls) (line : Nat) (className : String) :
    C.Conducts (.within room) (makeObject context calls line className) fun _ => True := by
  unfold makeObject
  split
  · exact .failOn laws line trivial
  · next decl found =>
      refine (supports.instantiate (Program.class?_eq_some found).2).seq laws fun cell _ => ?_
      exact conducts_allocate laws line cell

theorem conducts_arguments (supports : C.Supports room calls) {arguments : List Expr} {method : Method}
    {className : String} (line : Nat) (declares : context.Declares method className)
    (evaluated : ∀ argument ∈ arguments, C.Evaluates room calls argument) :
    C.Conducts (.within room)
      (Expr.evalAll context calls arguments >>= fun values => calls.invoke method className values line)
      fun _ => True :=
  (conducts_evalAll laws evaluated).seq laws fun values _ => supports.invoke values line declares

theorem evaluates_call (supports : C.Supports room calls) {callee : Expr} {arguments : List Expr} (line : Nat)
    (receiver : ∀ fieldLine object nameLine name, callee = .field fieldLine object nameLine name →
      C.Evaluates room calls object)
    (evaluated : ∀ argument ∈ arguments, C.Evaluates room calls argument) :
    C.Evaluates room calls (.call line callee arguments) := by
  apply Evaluates.of_body (Expr.eval.eq_def ..)
  dsimp only
  split
  · split
    · exact .failOn laws line trivial
    · next method _ =>
        exact (conducts_evalAll laws evaluated).seq laws fun values _ => conducts_writeConsole laws line method values
  · split
    · next symbol _ =>
        refine (conducts_methodNamed laws line symbol).seq laws fun found declares => ?_
        exact conducts_arguments laws supports line declares evaluated
    · next fieldLine object nameLine symbol _ =>
        refine Conducts.seq laws (receiver fieldLine object nameLine symbol rfl) fun value _ => ?_
        refine (conducts_methodOf laws line value symbol).seq laws fun found declares => ?_
        exact conducts_arguments laws supports line declares evaluated
    · exact .failOn laws line trivial

theorem evaluates_logical {left right : Expr} (line : Nat) (operator : String)
    (first : C.Evaluates room calls left) (second : C.Evaluates room calls right) :
    C.Evaluates room calls (.logical line left operator right) := by
  apply Evaluates.of_body (Expr.eval.eq_def ..)
  refine Conducts.seq laws first fun leftValue _ => ?_
  refine (conducts_truth laws left.line leftValue).seq laws fun decided _ => ?_
  have finish : ∀ result : Bool, C.Conducts (.within room)
      (record context.options line none none >>= fun _ => pure (Value.bool result)) fun _ => True :=
    fun result => conducts_record_yield laws line none none trivial
  have given : C.Conducts (.within room) (pure decided : Machine Bool) fun _ => True := .yields laws trivial
  refine .branch (given.seq laws fun result _ => finish result) ?_
  refine Conducts.seq laws second fun rightValue _ => ?_
  exact (conducts_truth laws right.line rightValue).seq laws fun result _ => finish result

theorem evaluates_conditional {test consequent alternate : Expr} (line : Nat) (tested : C.Evaluates room calls test)
    (first : C.Evaluates room calls consequent) (second : C.Evaluates room calls alternate) :
    C.Evaluates room calls (.conditional line test consequent alternate) := by
  apply Evaluates.of_body (Expr.eval.eq_def ..)
  refine Conducts.seq laws tested fun testValue _ => ?_
  refine (conducts_truth laws test.line testValue).seq laws fun decided _ => ?_
  have finish : ∀ value : Value, C.Conducts (.within room)
      (record context.options line none none >>= fun _ => pure value) fun _ => True :=
    fun value => conducts_record_yield laws line none none trivial
  refine .branch ?_ ?_
  · exact Conducts.seq laws first fun value _ => finish value
  · exact Conducts.seq laws second fun value _ => finish value

theorem treats_field {object : Expr} (line nameLine : Nat) (name : String) (evaluated : C.Evaluates room calls object) :
    C.Treats room calls (.field line object nameLine name) := by
  constructor
  · apply Evaluates.of_body (Expr.eval.eq_def ..)
    refine Conducts.seq laws evaluated fun container _ => ?_
    exact (conducts_ofField laws line container name).seq laws fun slot _ => conducts_read laws slot
  · intro _
    rw [Expr.locate.eq_2]
    exact Conducts.seq laws evaluated fun container _ => conducts_ofField laws line container name
  · rintro _ _ _ _ ⟨⟩
    exact evaluated

theorem treats_index {object position : Expr} (line : Nat) (evaluated : C.Evaluates room calls object)
    (numbered : C.Evaluates room calls position) : C.Treats room calls (.index line object position) := by
  constructor
  · apply Evaluates.of_body (Expr.eval.eq_def ..)
    refine Conducts.seq laws evaluated fun container _ => ?_
    refine Conducts.seq laws numbered fun index _ => ?_
    exact (conducts_ofIndex laws line container index).seq laws fun slot _ => conducts_read laws slot
  · intro _
    rw [Expr.locate.eq_3]
    refine Conducts.seq laws evaluated fun container _ => ?_
    exact Conducts.seq laws numbered fun index _ => conducts_ofIndex laws line container index
  · rintro _ _ _ _ ⟨⟩

/-- Every expression whose parts are known of is conducted. -/
theorem treats_expression (supports : C.Supports room calls) (expression : Expr)
    (known : ∀ part ∈ expression.parts, C.node part) : C.Treats room calls expression := by
  -- One case for each form of expression; every form but names, fields and elements is refused as a target.
  induction expression using Expr.induction with
  | int | double | bool | string | null =>
      refine .of_evaluates ?_ (Expr.locate.eq_def ..) rfl
      exact .of_body (Expr.eval_literal rfl) (.yields laws trivial)
  | char line raw =>
      refine .of_evaluates ?_ (Expr.locate.eq_def ..) rfl
      exact .of_body (Expr.eval.eq_def ..) (conducts_literalChar laws raw)
  | name line symbol =>
      constructor
      · exact .of_body (Expr.eval.eq_def ..) (conducts_lookup laws symbol)
      · intro _
        rw [Expr.locate.eq_1]
        exact conducts_ofName laws symbol
      · rintro _ _ _ _ ⟨⟩
  | binary line left operator right first second =>
      simp only [Expr.parts, List.forall_mem_cons, List.forall_mem_append] at known
      refine .of_evaluates ?_ (Expr.locate.eq_def ..) rfl
      apply Evaluates.of_body (Expr.eval.eq_def ..)
      refine Conducts.seq laws (first known.2.1).evaluates fun leftValue _ => ?_
      refine Conducts.seq laws (second known.2.2).evaluates fun rightValue _ => ?_
      exact conducts_applyBinary laws line leftValue rightValue fun unknown => laws.unfit line known.1 (.binary unknown)
  | logical line left operator right first second =>
      simp only [Expr.parts, List.forall_mem_cons, List.forall_mem_append] at known
      refine .of_evaluates ?_ (Expr.locate.eq_def ..) rfl
      exact evaluates_logical laws line operator (first known.2.1).evaluates (second known.2.2).evaluates
  | unary line operator argument ih =>
      simp only [Expr.parts, List.forall_mem_cons] at known
      refine .of_evaluates ?_ (Expr.locate.eq_def ..) rfl
      apply Evaluates.of_body (Expr.eval.eq_def ..)
      refine Conducts.seq laws (ih known.2).evaluates fun value _ => ?_
      exact conducts_applyUnary laws line value fun unknown => laws.unfit line known.1 (.unary unknown)
  | conditional line test consequent alternate tested first second =>
      simp only [Expr.parts, List.forall_mem_cons, List.forall_mem_append] at known
      refine .of_evaluates ?_ (Expr.locate.eq_def ..) rfl
      exact evaluates_conditional laws line (tested known.2.1.1).evaluates (first known.2.1.2).evaluates
        (second known.2.2).evaluates
  | assign line target value located evaluated =>
      simp only [Expr.parts, List.forall_mem_cons, List.forall_mem_append] at known
      refine .of_evaluates ?_ (Expr.locate.eq_def ..) rfl
      apply Evaluates.of_body (Expr.eval.eq_def ..)
      have slots := (located known.2.1).locates fun misplaced line => laws.unfit line known.1 (.assign misplaced)
      refine slots.seq laws fun slot _ => ?_
      refine Conducts.seq laws (evaluated known.2.2).evaluates fun newValue _ => ?_
      exact conducts_store laws line slot newValue
  | compound line target operator value located evaluated =>
      simp only [Expr.parts, List.forall_mem_cons, List.forall_mem_append] at known
      refine .of_evaluates ?_ (Expr.locate.eq_def ..) rfl
      apply Evaluates.of_body (Expr.eval.eq_def ..)
      have slots := (located known.2.1).locates fun misplaced line => laws.unfit line known.1 (.compoundAssign misplaced)
      refine slots.seq laws fun slot _ => ?_
      refine (conducts_read laws slot).seq laws fun current _ => ?_
      refine Conducts.seq laws (evaluated known.2.2).evaluates fun operand _ => ?_
      exact conducts_storeCompound laws line slot current operand fun unknown =>
        laws.unfit line known.1 (.compound unknown)
  | field line object nameLine name ih =>
      simp only [Expr.parts, List.forall_mem_cons] at known
      exact treats_field laws line nameLine name (ih known.2).evaluates
  | index line object position evaluated numbered =>
      simp only [Expr.parts, List.forall_mem_cons, List.forall_mem_append] at known
      exact treats_index laws line (evaluated known.2.1).evaluates (numbered known.2.2).evaluates
  | call line callee arguments called given =>
      simp only [Expr.parts, List.forall_mem_cons, List.forall_mem_append] at known
      refine .of_evaluates ?_ (Expr.locate.eq_def ..) rfl
      exact evaluates_call laws supports line (called known.2.1).object
        fun argument member => (given argument member (Expr.forall_mem_partsAll.mp known.2.2 _ member)).evaluates
  | create line className =>
      refine .of_evaluates ?_ (Expr.locate.eq_def ..) rfl
      exact .of_body (Expr.eval.eq_def ..) (conducts_makeObject laws supports line className)
  | newArray line elementType size ih =>
      simp only [Expr.parts, List.forall_mem_cons] at known
      refine .of_evaluates ?_ (Expr.locate.eq_def ..) rfl
      apply Evaluates.of_body (Expr.eval.eq_def ..)
      refine Conducts.seq laws (ih known.2).evaluates fun value _ => ?_
      exact conducts_makeArray laws line elementType value
  | arrayOf line elementType values ih =>
      simp only [Expr.parts, List.forall_mem_cons] at known
      refine .of_evaluates ?_ (Expr.locate.eq_def ..) rfl
      apply Evaluates.of_body (Expr.eval.eq_def ..)
      refine conducts_arrayOf laws line elementType ?_
      exact fun value member => (ih value member (Expr.forall_mem_partsAll.mp known.2 _ member)).evaluates
  | update line form operator nameLine name =>
      refine .of_evaluates ?_ (Expr.locate.eq_def ..) rfl
      exact .of_body (Expr.eval.eq_def ..) (conducts_updateVariable laws line form operator name)

theorem evaluates_expression (supports : C.Supports room calls) (expression : Expr)
    (known : ∀ part ∈ expression.parts, C.node part) : C.Evaluates room calls expression :=
  (treats_expression laws supports expression known).evaluates

theorem conducts_evalCondition (supports : C.Supports room calls) (test : Expr)
    (known : ∀ part ∈ test.parts, C.node part) :
    C.Conducts (.within room) (test.evalCondition context calls) fun _ => True :=
  Conducts.seq laws (evaluates_expression laws supports test known) fun value _ => conducts_truth laws test.line value

end Conduct

end Stepwise
