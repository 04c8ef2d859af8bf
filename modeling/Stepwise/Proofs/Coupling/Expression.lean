import Stepwise.Proofs.Coupling

/-!
# Expressions under a coupling

The same expression, evaluated on both sides of a coupling, ends alike, if calling methods and making objects does.
First come the operations that expressions are made of; the induction over the expression then follows its evaluation.
-/

namespace Stepwise

set_option autoImplicit false

namespace Coupling

structure CouplesCalls (C : Coupling) (room : Nat) (left right : Calls) : Prop where
  invoke : ∀ {one two : State} (method : Method) (className : String) (arguments : List Value) (line : Nat),
    C.Ready room one two →
    C.Couples room one two (left.invoke method className arguments line)
      (right.invoke method className arguments line) fun _ => True
  instantiate : ∀ {one two : State} (decl : ClassDecl), C.Ready room one two →
    C.Couples room one two (left.instantiate decl) (right.instantiate decl) fun _ => True

variable {C : Coupling} {room : Nat} {one two : State} {α : Type} (laws : C.ViewLaws)
include laws

theorem couples_truth (line : Nat) (value : Value) (ready : C.Ready room one two) :
    C.Couples room one two (Machine.truth line value) (Machine.truth line value) fun _ => True := by
  cases value with
  | bool value => exact .yields ready trivial
  | _ => exact .fails laws ready

theorem couples_literalChar (raw : String) (ready : C.Ready room one two) :
    C.Couples room one two (Machine.literalChar raw) (Machine.literalChar raw) fun _ => True := by
  unfold Machine.literalChar
  split
  · exact .yields ready trivial
  · exact .fails laws ready

theorem couples_lookup (name : String) (ready : C.Ready room one two) :
    C.Couples room one two (Machine.lookup name) (Machine.lookup name) fun _ => True := by
  apply Runs.given
  intro known
  apply Couples.look
  rw [laws.current ready.agree, laws.lookup name known ready.agree ready.current]
  exact .outcome laws ready

omit laws in
/-- A slot that both runs may use, and that is no variable. -/
def common (C : Coupling) (slot : Slot) : Prop :=
  C.slot slot ∧ slot.placed C.place = slot

/-- The slot of a name is the same, seen from where either run is. -/
theorem couples_ofName_seq {nextLeft nextRight : Slot → Machine α} {required : α → Prop} (name : String)
    (ready : C.Ready room one two)
    (others : ∀ slot, C.slot slot →
      C.Couples room one two (nextLeft slot) (nextRight (slot.placed C.place)) required) :
    C.Couples room one two (Slot.ofName name >>= nextLeft) (Slot.ofName name >>= nextRight) required := by
  apply Runs.given
  intro known
  have resolved := laws.resolve name known ready.agree ready.current
  rw [← laws.current ready.agree] at resolved
  cases found : one.scopes.resolve one.current name with
  | error failure =>
      cases foundTwo : two.scopes.resolve two.current name with
      | ok other =>
          rw [found, foundTwo] at resolved
          cases resolved
      | error other =>
          rw [found, foundTwo] at resolved
          cases resolved
          intro _
          rw [Machine.run_bind, Machine.run_bind, Machine.run_ofName_of_error found,
            Machine.run_ofName_of_error foundTwo]
          exact .failed (laws.failing ready.agree)
  | ok owner =>
      cases foundTwo : two.scopes.resolve two.current name with
      | error other =>
          rw [found, foundTwo] at resolved
          cases resolved
      | ok other =>
          have following := others (.binding one.current name) ready.current
          rw [Slot.placed, ← laws.current ready.agree] at following
          exact Runs.silent_seq (Machine.run_ofName_of_ok found) ((Machine.ReadsOnly.ofName name).passing one)
            (Machine.run_ofName_of_ok foundTwo) following

theorem couples_dereference (value : Value) (action : String) (line : Nat) (ready : C.Ready room one two) :
    C.Couples room one two (Machine.dereference value action line) (Machine.dereference value action line)
      fun _ => True := by
  cases value with
  | ref handle =>
      apply Couples.look
      rw [laws.heap ready.agree]
      cases one.heap.get? handle with
      | some cell => exact .yields ready trivial
      | none => exact .fails laws ready
  | _ => exact .fails laws ready

theorem couples_ofIndex (line : Nat) (container index : Value) (ready : C.Ready room one two) :
    C.Couples room one two (Slot.ofIndex line container index) (Slot.ofIndex line container index) C.common := by
  apply (couples_dereference laws container _ line ready).seq
  intro found oneNext twoNext further _
  obtain ⟨handle, cell⟩ := found
  cases cell with
  | object className fields => exact .fails laws further
  | array elementType values =>
      dsimp only
      cases index.integral? with
      | none => exact .fails laws further
      | some position =>
          dsimp only
          split
          · exact .yields further ⟨trivial, rfl⟩
          · apply (Couples.outcome laws further).seq
            intro text oneLast twoLast last _
            exact .fails laws last

theorem couples_ofField (line : Nat) (container : Value) (name : String) (ready : C.Ready room one two) :
    C.Couples room one two (Slot.ofField line container name) (Slot.ofField line container name) C.common := by
  apply (couples_dereference laws container _ line ready).seq
  intro found oneNext twoNext further _
  obtain ⟨handle, cell⟩ := found
  cases cell with
  | object className fields => exact .yields further ⟨trivial, rfl⟩
  | array elementType values =>
      dsimp only
      split
      · exact .yields further ⟨trivial, rfl⟩
      · exact .fails laws further

theorem couples_read {slot : Slot} (ready : C.Ready room one two) (there : C.slot slot) :
    C.Couples room one two slot.read (slot.placed C.place).read fun _ => True := by
  cases slot with
  | binding scope name =>
      apply Runs.given
      intro known
      apply Couples.look
      rw [laws.lookup name known ready.agree there]
      exact .outcome laws ready
  | element handle position =>
      apply Couples.look
      rw [laws.heap ready.agree]
      split
      · split
        · exact .yields ready trivial
        · exact .fails laws ready
      · exact .fails laws ready
  | field handle name =>
      apply Couples.look
      rw [laws.heap ready.agree]
      split
      · split
        · exact .yields ready trivial
        · exact .fails laws ready
      · exact .fails laws ready
  | length size => exact .yields ready trivial

theorem couples_read_common {slot : Slot} (ready : C.Ready room one two) (there : C.common slot) :
    C.Couples room one two slot.read slot.read fun _ => True := by
  have reads := couples_read laws ready there.1
  rw [there.2] at reads
  exact reads

theorem couples_write {slot : Slot} (value : Value) (ready : C.Ready room one two) (there : C.slot slot) :
    C.Couples room one two (slot.write value) ((slot.placed C.place).write value) fun _ => True := by
  cases slot with
  | binding scope name =>
      apply Runs.given
      intro known
      have assigned := laws.assigned name value known ready.agree there
      apply Couples.look
      dsimp only
      generalize one.scopes.assign scope name value = first at assigned ⊢
      generalize two.scopes.assign (C.place scope) name value = second at assigned ⊢
      cases assigned with
      | failed failure => exact Runs.fails_seq (laws.failing ready.agree)
      | changed agree =>
          apply Runs.yields_seq
          apply Runs.change_seq (laws.leads_of_same rfl rfl rfl)
          exact Couples.yields ⟨agree, ready.current⟩ trivial
  | element handle position =>
      apply Couples.look
      rw [laws.heap ready.agree]
      split
      · next elementType values _ =>
          apply (Couples.outcome laws ready).seq
          intro stored oneNext twoNext further _
          apply Runs.change_seq (laws.leads_of_same rfl rfl rfl)
          rw [laws.heap further.agree]
          exact Couples.yields ⟨laws.reheaped _ further.agree, further.current⟩ trivial
      · exact .fails laws ready
  | field handle name =>
      apply Couples.look
      rw [laws.heap ready.agree]
      split
      · apply Runs.change_seq (laws.leads_of_same rfl rfl rfl)
        rw [laws.heap ready.agree]
        exact Couples.yields ⟨laws.reheaped _ ready.agree, ready.current⟩ trivial
      · exact .fails laws ready
  | length size => exact .fails laws ready

theorem couples_record_yield {result : α} {required : α → Prop} (line : Nat) (console : Option Text)
    (event : Option Event) (ready : C.Ready room one two) (holds : required result) :
    C.Couples room one two (Machine.record C.left.options line console event >>= fun _ => pure result)
      (Machine.record C.right.options line console event >>= fun _ => pure result) required := by
  apply (laws.record line console event ready).seq
  intro _ oneNext twoNext further _
  exact .yields further holds

theorem couples_store {slot : Slot} (line : Nat) (value : Value) (ready : C.Ready room one two)
    (there : C.slot slot) :
    C.Couples room one two (Machine.store C.left.options line slot value)
      (Machine.store C.right.options line (slot.placed C.place) value) fun _ => True := by
  apply (couples_write laws value ready there).seq
  intro stored oneNext twoNext further _
  exact couples_record_yield laws line none none further trivial

theorem couples_allocate (line : Nat) (cell : Cell) (ready : C.Ready room one two) :
    C.Couples room one two (Machine.allocate C.left.options line cell)
      (Machine.allocate C.right.options line cell) fun _ => True := by
  apply Couples.look
  rw [laws.heap ready.agree]
  apply Runs.change_seq (laws.leads_of_same rfl rfl rfl)
  rw [laws.heap ready.agree]
  exact couples_record_yield laws line none (some .allocation) ⟨laws.reheaped _ ready.agree, ready.current⟩ trivial

theorem couples_applyBinary (line : Nat) (operator : String) (leftValue rightValue : Value)
    (ready : C.Ready room one two) :
    C.Couples room one two (Machine.applyBinary C.left.options line operator leftValue rightValue)
      (Machine.applyBinary C.right.options line operator leftValue rightValue) fun _ => True := by
  apply Couples.look
  rw [laws.heap ready.agree]
  apply (Couples.outcome laws ready).seq
  intro result oneNext twoNext further _
  exact couples_record_yield laws line none none further trivial

theorem couples_applyUnary (line : Nat) (operator : String) (value : Value) (ready : C.Ready room one two) :
    C.Couples room one two (Machine.applyUnary C.left.options line operator value)
      (Machine.applyUnary C.right.options line operator value) fun _ => True := by
  apply (Couples.outcome laws ready).seq
  intro result oneNext twoNext further _
  exact couples_record_yield laws line none none further trivial

theorem couples_writeConsole (line : Nat) (method : ConsoleMethod) (arguments : List Value)
    (ready : C.Ready room one two) :
    C.Couples room one two (Machine.writeConsole C.left.options line method arguments)
      (Machine.writeConsole C.right.options line method arguments) fun _ => True := by
  apply Couples.look
  rw [laws.heap ready.agree]
  apply (Couples.outcome laws ready).seq
  intro output oneNext twoNext further _
  exact couples_record_yield laws line (some output) none further trivial

theorem couples_storeCompound {slot : Slot} (line : Nat) (operator : String) (current operand : Value)
    (ready : C.Ready room one two) (there : C.slot slot) :
    C.Couples room one two (Machine.storeCompound C.left.options line operator slot current operand)
      (Machine.storeCompound C.right.options line operator (slot.placed C.place) current operand) fun _ => True := by
  apply Couples.look
  rw [laws.heap ready.agree]
  apply (Couples.outcome laws ready).seq
  intro result oneNext twoNext further _
  apply (Couples.outcome laws further).seq
  intro narrowed oneLast twoLast last _
  exact couples_store laws line narrowed last there

theorem couples_updateVariable (line : Nat) (form : UpdateForm) (operator name : String)
    (ready : C.Ready room one two) :
    C.Couples room one two (Machine.updateVariable C.left.options line form operator name)
      (Machine.updateVariable C.right.options line form operator name) fun _ => True := by
  have there : C.slot (.binding one.current name) := ready.current
  apply Couples.look
  rw [laws.current ready.agree]
  apply (couples_read laws ready there).seq
  intro current oneNext twoNext further _
  apply (Couples.outcome laws further).seq
  intro next oneThen twoThen later _
  apply (couples_store laws line next later there).seq
  intro stored oneLast twoLast last _
  exact .yields last trivial

theorem couples_makeArray (line : Nat) (elementType : String) (size : Value) (ready : C.Ready room one two) :
    C.Couples room one two (Machine.makeArray C.left.options line elementType size)
      (Machine.makeArray C.right.options line elementType size) fun _ => True := by
  unfold Machine.makeArray
  cases size.integral? with
  | none => exact .fails laws ready
  | some length =>
      dsimp only
      split
      · apply (Couples.outcome laws ready).seq
        intro text oneNext twoNext further _
        exact .fails laws further
      · exact couples_allocate laws line _ ready

theorem couples_makeObject {left right : Calls} (couples : C.CouplesCalls room left right) (line : Nat)
    (className : String) (ready : C.Ready room one two) :
    C.Couples room one two (Machine.makeObject C.left left line className)
      (Machine.makeObject C.right right line className) fun _ => True := by
  unfold Machine.makeObject
  rw [laws.program]
  cases C.left.program.class? className with
  | none => exact .fails laws ready
  | some decl =>
      apply (couples.instantiate decl ready).seq
      intro cell oneNext twoNext further _
      exact couples_allocate laws line cell further

theorem couples_methodNamed (line : Nat) (name : String) (ready : C.Ready room one two) :
    C.Couples room one two (Machine.methodNamed C.left line name) (Machine.methodNamed C.right line name)
      fun _ => True := by
  have current : C.Couples room one two Machine.currentClass Machine.currentClass fun _ => True := by
    apply Couples.look
    have classes := laws.classes ready.agree
    generalize one.frames = frames at classes ⊢
    generalize two.frames = others at classes ⊢
    cases frames with
    | nil =>
        obtain rfl := List.map_eq_nil_iff.mp classes
        exact .yields ready trivial
    | cons frame older =>
        obtain ⟨other, rest, rfl, same, -⟩ := List.map_eq_cons_iff.mp classes
        dsimp only
        rw [same]
        exact .yields ready trivial
  apply current.seq
  intro className oneNext twoNext further _
  rw [laws.program]
  split
  · exact .yields further trivial
  · exact .fails laws further

theorem couples_methodOf (line : Nat) (receiver : Value) (name : String) (ready : C.Ready room one two) :
    C.Couples room one two (Machine.methodOf C.left line receiver name) (Machine.methodOf C.right line receiver name)
      fun _ => True := by
  unfold Machine.methodOf
  rw [laws.program]
  split
  · exact Runs.fails_seq (laws.failing ready.agree)
  · apply (couples_dereference laws receiver _ line ready).seq
    intro found oneNext twoNext further _
    obtain ⟨handle, cell⟩ := found
    cases cell with
    | array elementType values => exact .fails laws further
    | object className fields =>
        dsimp only
        split
        · exact .yields further trivial
        · exact .fails laws further

omit laws in
def Evaluates (C : Coupling) (room : Nat) (left right : Calls) (expression : Expr) : Prop :=
  ∀ one two, C.Ready room one two →
    C.Couples room one two (expression.eval C.left left) (expression.eval C.right right) fun _ => True

omit laws in
/-- Wherever states agree, finding the slot that the expression denotes ends alike on both sides, and what comes after
has the same slot on both, seen from where either run is. -/
def Locates (C : Coupling) (room : Nat) (left right : Calls) (expression : Expr) : Prop :=
  ∀ one two, C.Ready room one two → ∀ nextLeft nextRight : Slot → Machine Value,
    (∀ slot oneNext twoNext, C.Ready room oneNext twoNext → C.slot slot →
      C.Couples room oneNext twoNext (nextLeft slot) (nextRight (slot.placed C.place)) fun _ => True) →
    C.Couples room one two (expression.locate C.left left >>= nextLeft) (expression.locate C.right right >>= nextRight)
      fun _ => True

variable {left right : Calls}

omit laws in
theorem Locates.of_common {expression : Expr}
    (couples : ∀ one two, C.Ready room one two →
      C.Couples room one two (expression.locate C.left left) (expression.locate C.right right) C.common) :
    C.Locates room left right expression := by
  intro one two ready nextLeft nextRight others
  apply (couples one two ready).seq
  intro slot oneNext twoNext further there
  have following := others slot oneNext twoNext further there.1
  rw [there.2] at following
  exact following

omit laws in
theorem couples_evalAll {expressions : List Expr}
    (evaluated : ∀ expression ∈ expressions, C.Evaluates room left right expression) (ready : C.Ready room one two) :
    C.Couples room one two (Expr.evalAll C.left left expressions) (Expr.evalAll C.right right expressions)
      fun _ => True := by
  induction expressions generalizing one two with
  | nil =>
      rw [Expr.evalAll.eq_1, Expr.evalAll.eq_1]
      exact .yields ready trivial
  | cons expression others ih =>
      rw [Expr.evalAll.eq_2, Expr.evalAll.eq_2]
      apply (evaluated expression List.mem_cons_self one two ready).seq
      intro value oneNext twoNext further _
      apply (ih (fun other member => evaluated other (List.mem_cons_of_mem _ member)) further).seq
      intro values oneLast twoLast last _
      exact .yields last trivial

theorem couples_evalElements {expressions : List Expr} (elementType : String)
    (evaluated : ∀ expression ∈ expressions, C.Evaluates room left right expression) (ready : C.Ready room one two) :
    C.Couples room one two (Expr.evalElements C.left left elementType expressions)
      (Expr.evalElements C.right right elementType expressions) fun _ => True := by
  induction expressions generalizing one two with
  | nil =>
      rw [Expr.evalElements.eq_1, Expr.evalElements.eq_1]
      exact .yields ready trivial
  | cons expression others ih =>
      rw [Expr.evalElements.eq_2, Expr.evalElements.eq_2]
      apply (evaluated expression List.mem_cons_self one two ready).seq
      intro value oneNext twoNext further _
      apply (Couples.outcome laws further).seq
      intro stored oneThen twoThen later _
      apply (ih (fun other member => evaluated other (List.mem_cons_of_mem _ member)) later).seq
      intro values oneLast twoLast last _
      exact .yields last trivial

theorem couples_arrayOf {values : List Expr} (line : Nat) (elementType : String)
    (evaluated : ∀ value ∈ values, C.Evaluates room left right value) (ready : C.Ready room one two) :
    C.Couples room one two
      (Expr.evalElements C.left left elementType values >>= fun items =>
        Machine.allocate C.left.options line (.array elementType items.toArray))
      (Expr.evalElements C.right right elementType values >>= fun items =>
        Machine.allocate C.right.options line (.array elementType items.toArray)) fun _ => True := by
  apply (couples_evalElements laws elementType evaluated ready).seq
  intro items oneNext twoNext further _
  exact couples_allocate laws line _ further

omit laws in
theorem couples_arguments {arguments : List Expr} (couples : C.CouplesCalls room left right) (line : Nat)
    (method : Method) (className : String)
    (evaluated : ∀ argument ∈ arguments, C.Evaluates room left right argument) (ready : C.Ready room one two) :
    C.Couples room one two
      (Expr.evalAll C.left left arguments >>= fun values => left.invoke method className values line)
      (Expr.evalAll C.right right arguments >>= fun values => right.invoke method className values line)
      fun _ => True := by
  apply (couples_evalAll evaluated ready).seq
  intro values oneNext twoNext further _
  exact couples.invoke method className values line further

omit laws in
theorem evaluates_of_body {expression : Expr} {bodyLeft bodyRight : Machine Value}
    (opensLeft : expression.eval C.left left = Machine.mark (.evaluating expression) >>= fun _ => bodyLeft)
    (opensRight : expression.eval C.right right = Machine.mark (.evaluating expression) >>= fun _ => bodyRight)
    (couples : ∀ one two, C.Ready room one two → C.Couples room one two bodyLeft bodyRight fun _ => True) :
    C.Evaluates room left right expression := by
  intro one two ready
  rw [opensLeft, opensRight]
  exact Runs.mark_seq (couples one two ready)

theorem evaluates_call {callee : Expr} {arguments : List Expr} (couples : C.CouplesCalls room left right)
    (line : Nat)
    (receiver : ∀ fieldLine object nameLine name, callee = .field fieldLine object nameLine name →
      C.Evaluates room left right object)
    (evaluated : ∀ argument ∈ arguments, C.Evaluates room left right argument) :
    C.Evaluates room left right (.call line callee arguments) := by
  apply evaluates_of_body (Expr.eval.eq_def ..) (Expr.eval.eq_def ..)
  intro one two ready
  dsimp only
  split
  · split
    · exact .fails laws ready
    · next method _ =>
        apply (couples_evalAll evaluated ready).seq
        intro values oneNext twoNext further _
        exact couples_writeConsole laws line method values further
  · split
    · next symbol _ =>
        apply (couples_methodNamed laws line symbol ready).seq
        intro found oneNext twoNext further _
        exact couples_arguments couples line found.1 found.2 evaluated further
    · next fieldLine object nameLine symbol _ =>
        apply (receiver fieldLine object nameLine symbol rfl one two ready).seq
        intro value oneNext twoNext further _
        apply (couples_methodOf laws line value symbol further).seq
        intro found oneLast twoLast last _
        exact couples_arguments couples line found.1 found.2 evaluated last
    · exact .fails laws ready

theorem evaluates_logical {leftOperand rightOperand : Expr} (line : Nat) (operator : String)
    (first : C.Evaluates room left right leftOperand) (second : C.Evaluates room left right rightOperand) :
    C.Evaluates room left right (.logical line leftOperand operator rightOperand) := by
  apply evaluates_of_body (Expr.eval.eq_def ..) (Expr.eval.eq_def ..)
  intro one two ready
  apply (first one two ready).seq
  intro leftValue oneNext twoNext further _
  apply (couples_truth laws leftOperand.line leftValue further).seq
  intro decided oneThen twoThen later _
  extract_lets finishLeft finishRight
  have finish : ∀ result one two, C.Ready room one two →
      C.Couples room one two (finishLeft result) (finishRight result) fun _ => True :=
    fun result _ _ ready => couples_record_yield laws line none none ready trivial
  split
  · apply (Couples.yields later trivial : C.Couples room _ _ (pure decided) _ fun _ => True).seq
    exact fun result oneLast twoLast last _ => finish result oneLast twoLast last
  · apply (second oneThen twoThen later).seq
    intro rightValue oneLast twoLast last _
    apply (couples_truth laws rightOperand.line rightValue last).seq
    exact fun result oneEnd twoEnd ready _ => finish result oneEnd twoEnd ready

theorem evaluates_conditional {test consequent alternate : Expr} (line : Nat)
    (condition : C.Evaluates room left right test) (first : C.Evaluates room left right consequent)
    (second : C.Evaluates room left right alternate) :
    C.Evaluates room left right (.conditional line test consequent alternate) := by
  apply evaluates_of_body (Expr.eval.eq_def ..) (Expr.eval.eq_def ..)
  intro one two ready
  apply (condition one two ready).seq
  intro testValue oneNext twoNext further _
  apply (couples_truth laws test.line testValue further).seq
  intro decided oneThen twoThen later _
  extract_lets finishLeft finishRight
  have finish : ∀ result one two, C.Ready room one two →
      C.Couples room one two (finishLeft result) (finishRight result) fun _ => True :=
    fun result _ _ ready => couples_record_yield laws line none none ready trivial
  split
  · apply (first oneThen twoThen later).seq
    exact fun value oneLast twoLast last _ => finish value oneLast twoLast last
  · apply (second oneThen twoThen later).seq
    exact fun value oneLast twoLast last _ => finish value oneLast twoLast last

theorem evaluates_compound {target value : Expr} (line : Nat) (operator : String)
    (located : C.Locates room left right target) (evaluated : C.Evaluates room left right value) :
    C.Evaluates room left right (.compound line target operator value) := by
  apply evaluates_of_body (Expr.eval.eq_def ..) (Expr.eval.eq_def ..)
  intro one two ready
  apply located one two ready
  intro slot oneNext twoNext further there
  apply (couples_read laws further there).seq
  intro current oneThen twoThen later _
  apply (evaluated oneThen twoThen later).seq
  intro operand oneLast twoLast last _
  exact couples_storeCompound laws line operator current operand last there

omit laws in
theorem couples_indexed {object position : Expr} {nextLeft nextRight : Value → Value → Machine α} {required : α → Prop}
    (evaluated : C.Evaluates room left right object) (numbered : C.Evaluates room left right position)
    (ready : C.Ready room one two)
    (others : ∀ container index oneNext twoNext, C.Ready room oneNext twoNext →
      C.Couples room oneNext twoNext (nextLeft container index) (nextRight container index) required) :
    C.Couples room one two
      (object.eval C.left left >>= fun container => position.eval C.left left >>= fun index =>
        nextLeft container index)
      (object.eval C.right right >>= fun container => position.eval C.right right >>= fun index =>
        nextRight container index) required := by
  apply (evaluated one two ready).seq
  intro container oneNext twoNext further _
  apply (numbered oneNext twoNext further).seq
  exact fun index oneLast twoLast last _ => others container index oneLast twoLast last

omit laws in
/-- What the induction over an expression carries. The object of a member access is evaluated by itself when the
access is what a call calls. -/
structure Treats (C : Coupling) (room : Nat) (left right : Calls) (expression : Expr) : Prop where
  evaluates : C.Evaluates room left right expression
  locates : C.Locates room left right expression
  object : ∀ line object nameLine name, expression = .field line object nameLine name →
    C.Evaluates room left right object

theorem Treats.of_evaluates {expression : Expr} (evaluates : C.Evaluates room left right expression)
    (refusedLeft : expression.locate C.left left = Machine.failOn expression.line .invalidTarget)
    (refusedRight : expression.locate C.right right = Machine.failOn expression.line .invalidTarget)
    (other : expression.isTarget = false) : C.Treats room left right expression := by
  refine ⟨evaluates, ?_, ?_⟩
  · apply Locates.of_common
    intro one two ready
    rw [refusedLeft, refusedRight]
    exact .fails laws ready
  · rintro line object nameLine name rfl
    cases other

theorem treats_field {object : Expr} (line nameLine : Nat) (name : String)
    (evaluated : C.Evaluates room left right object) :
    C.Treats room left right (.field line object nameLine name) := by
  constructor
  · apply evaluates_of_body (Expr.eval.eq_def ..) (Expr.eval.eq_def ..)
    intro one two ready
    apply (evaluated one two ready).seq
    intro container oneNext twoNext further _
    apply (couples_ofField laws line container name further).seq
    exact fun slot oneLast twoLast last there => couples_read_common laws last there
  · apply Locates.of_common
    intro one two ready
    rw [Expr.locate.eq_2, Expr.locate.eq_2]
    apply (evaluated one two ready).seq
    exact fun container oneNext twoNext further _ => couples_ofField laws line container name further
  · intro _ other _ _ same
    cases same
    exact evaluated

theorem treats_index {object position : Expr} (line : Nat) (evaluated : C.Evaluates room left right object)
    (numbered : C.Evaluates room left right position) : C.Treats room left right (.index line object position) := by
  constructor
  · apply evaluates_of_body (Expr.eval.eq_def ..) (Expr.eval.eq_def ..)
    intro one two ready
    apply couples_indexed evaluated numbered ready
    intro container index oneNext twoNext further
    apply (couples_ofIndex laws line container index further).seq
    exact fun slot oneLast twoLast last there => couples_read_common laws last there
  · apply Locates.of_common
    intro one two ready
    rw [Expr.locate.eq_3, Expr.locate.eq_3]
    apply couples_indexed evaluated numbered ready
    exact fun container index oneNext twoNext further => couples_ofIndex laws line container index further
  · rintro _ _ _ _ ⟨⟩

/-- Every expression ends alike on both sides. -/
theorem treats_expression (couples : C.CouplesCalls room left right) (expression : Expr) :
    C.Treats room left right expression := by
  -- One case for each form of expression; every form but names, fields and elements is refused as a target.
  induction expression using Expr.induction with
  | int | double | bool | string | null =>
      refine Treats.of_evaluates laws ?_ (Expr.locate.eq_def ..) (Expr.locate.eq_def ..) rfl
      apply evaluates_of_body (Expr.eval_literal rfl) (Expr.eval_literal rfl)
      exact fun one two ready => .yields ready trivial
  | char line raw =>
      refine Treats.of_evaluates laws ?_ (Expr.locate.eq_def ..) (Expr.locate.eq_def ..) rfl
      apply evaluates_of_body (Expr.eval.eq_def ..) (Expr.eval.eq_def ..)
      exact fun one two ready => couples_literalChar laws raw ready
  | name line symbol =>
      constructor
      · apply evaluates_of_body (Expr.eval.eq_def ..) (Expr.eval.eq_def ..)
        exact fun one two ready => couples_lookup laws symbol ready
      · intro one two ready nextLeft nextRight others
        rw [Expr.locate.eq_1, Expr.locate.eq_1]
        exact couples_ofName_seq laws symbol ready fun slot there => others slot one two ready there
      · rintro _ _ _ _ ⟨⟩
  | binary line leftOperand operator rightOperand first second =>
      refine Treats.of_evaluates laws ?_ (Expr.locate.eq_def ..) (Expr.locate.eq_def ..) rfl
      apply evaluates_of_body (Expr.eval.eq_def ..) (Expr.eval.eq_def ..)
      intro one two ready
      apply couples_indexed first.evaluates second.evaluates ready
      exact fun leftValue rightValue oneNext twoNext further =>
        couples_applyBinary laws line operator leftValue rightValue further
  | logical line leftOperand operator rightOperand first second =>
      refine Treats.of_evaluates laws ?_ (Expr.locate.eq_def ..) (Expr.locate.eq_def ..) rfl
      exact evaluates_logical laws line operator first.evaluates second.evaluates
  | unary line operator argument ih =>
      refine Treats.of_evaluates laws ?_ (Expr.locate.eq_def ..) (Expr.locate.eq_def ..) rfl
      apply evaluates_of_body (Expr.eval.eq_def ..) (Expr.eval.eq_def ..)
      intro one two ready
      apply (ih.evaluates one two ready).seq
      exact fun value oneNext twoNext further _ => couples_applyUnary laws line operator value further
  | conditional line test consequent alternate condition first second =>
      refine Treats.of_evaluates laws ?_ (Expr.locate.eq_def ..) (Expr.locate.eq_def ..) rfl
      exact evaluates_conditional laws line condition.evaluates first.evaluates second.evaluates
  | assign line target value located evaluated =>
      refine Treats.of_evaluates laws ?_ (Expr.locate.eq_def ..) (Expr.locate.eq_def ..) rfl
      apply evaluates_of_body (Expr.eval.eq_def ..) (Expr.eval.eq_def ..)
      intro one two ready
      apply located.locates one two ready
      intro slot oneNext twoNext further there
      apply (evaluated.evaluates oneNext twoNext further).seq
      exact fun newValue oneLast twoLast last _ => couples_store laws line newValue last there
  | compound line target operator value located evaluated =>
      refine Treats.of_evaluates laws ?_ (Expr.locate.eq_def ..) (Expr.locate.eq_def ..) rfl
      exact evaluates_compound laws line operator located.locates evaluated.evaluates
  | field line object nameLine name ih => exact treats_field laws line nameLine name ih.evaluates
  | index line object position evaluated numbered =>
      exact treats_index laws line evaluated.evaluates numbered.evaluates
  | call line callee arguments called given =>
      refine Treats.of_evaluates laws ?_ (Expr.locate.eq_def ..) (Expr.locate.eq_def ..) rfl
      exact evaluates_call laws couples line called.object fun argument member => (given argument member).evaluates
  | create line className =>
      refine Treats.of_evaluates laws ?_ (Expr.locate.eq_def ..) (Expr.locate.eq_def ..) rfl
      apply evaluates_of_body (Expr.eval.eq_def ..) (Expr.eval.eq_def ..)
      exact fun one two ready => couples_makeObject laws couples line className ready
  | newArray line elementType size ih =>
      refine Treats.of_evaluates laws ?_ (Expr.locate.eq_def ..) (Expr.locate.eq_def ..) rfl
      apply evaluates_of_body (Expr.eval.eq_def ..) (Expr.eval.eq_def ..)
      intro one two ready
      apply (ih.evaluates one two ready).seq
      exact fun value oneNext twoNext further _ => couples_makeArray laws line elementType value further
  | arrayOf line elementType values ih =>
      refine Treats.of_evaluates laws ?_ (Expr.locate.eq_def ..) (Expr.locate.eq_def ..) rfl
      apply evaluates_of_body (Expr.eval.eq_def ..) (Expr.eval.eq_def ..)
      intro one two ready
      exact couples_arrayOf laws line elementType (fun value member => (ih value member).evaluates) ready
  | update line form operator nameLine name =>
      refine Treats.of_evaluates laws ?_ (Expr.locate.eq_def ..) (Expr.locate.eq_def ..) rfl
      apply evaluates_of_body (Expr.eval.eq_def ..) (Expr.eval.eq_def ..)
      exact fun one two ready => couples_updateVariable laws line form operator name ready

end Coupling

end Stepwise
