import Mathlib.Data.List.Forall2
import Stepwise.Proofs.Discipline.Operations
import Stepwise.Proofs.Tree

/-!
# The steps of an expression

An operation records its step after its operands have been evaluated. So the steps of an expression stand in the order
in which its operations come when every node is listed behind its operands. Names, accesses and literals record nothing.
The parts of the target of an assignment are evaluated, and the target itself is not read; the callee of a call on the
console is not evaluated at all, and records nothing in either case.

This is said of expressions every part of which is evaluated by itself. The operators that may leave out a part are not
among them, nor are calls and creations, which run other code.
-/

namespace Stepwise

set_option autoImplicit false

mutual

/-- The nodes of an expression, each behind its operands. -/
def Expr.postorder (expression : Expr) : List Expr :=
  (match expression with
    | .binary _ left _ right | .logical _ left _ right => left.postorder ++ right.postorder
    | .unary _ _ argument => argument.postorder
    | .conditional _ test consequent alternate => test.postorder ++ consequent.postorder ++ alternate.postorder
    | .assign _ target value | .compound _ target _ value => target.postorder ++ value.postorder
    | .field _ object _ _ => object.postorder
    | .index _ object position => object.postorder ++ position.postorder
    | .call _ callee arguments => callee.postorder ++ Expr.postorderAll arguments
    | .newArray _ _ size => size.postorder
    | .arrayOf _ _ values => Expr.postorderAll values
    | _ => []) ++ [expression]

def Expr.postorderAll : List Expr → List Expr
  | [] => []
  | expression :: others => expression.postorder ++ Expr.postorderAll others

end

theorem Expr.mem_postorder_self (expression : Expr) : expression ∈ expression.postorder := by
  rw [postorder.eq_def]
  exact List.mem_append_right _ (List.mem_singleton_self expression)

/-- What a node does that a step is recorded of. -/
inductive Deed
  | operation | allocation | output
  deriving DecidableEq, Repr

def Expr.deed? : Expr → Option Deed
  | .binary .. | .unary .. | .assign .. | .compound .. | .update .. => some .operation
  | .newArray .. | .arrayOf .. => some .allocation
  | .call .. => some .output
  | _ => none

/-- The nodes of an expression that a step is recorded of, each behind its operands. -/
def Expr.deeds (expression : Expr) : List Expr :=
  expression.postorder.filter fun node => node.deed?.isSome

def Expr.deedsAll (expressions : List Expr) : List Expr :=
  (Expr.postorderAll expressions).filter fun node => node.deed?.isSome

/-- A node that a step is recorded of is the last of its own. -/
theorem Expr.deeds_node {expression : Expr} {inner : List Expr} (ordered : expression.postorder = inner ++ [expression])
    (recorded : expression.deed?.isSome = true) :
    expression.deeds = (inner.filter fun node => node.deed?.isSome) ++ [expression] := by
  rw [deeds, ordered, List.filter_append]
  exact congrArg _ (List.filter_cons_of_pos recorded)

theorem Expr.deedsAll_cons (expression : Expr) (others : List Expr) :
    Expr.deedsAll (expression :: others) = expression.deeds ++ Expr.deedsAll others := by
  simp [deedsAll, deeds, postorderAll]

/-- The node is a literal, a name, an access, an operation, an array or a call of a method of the console. -/
def Expr.isElementary : Expr → Bool
  | .logical .. | .conditional .. | .create .. => false
  | .call _ callee _ => (callee.consoleMethod?.bind ConsoleMethod.ofName?).isSome
  | _ => true

def Expr.Elementary (expression : Expr) : Prop :=
  ∀ node ∈ expression.postorder, node.isElementary

/-- The step is one that the node records: it has the line of the node and the frames at hand, is marked as an
allocation if the node is an array, and shows console output if the node is a call. -/
structure Expr.Records (frames : List Frame) (node : Expr) (step : Step) : Prop where
  line : step.line = node.line
  frames : step.frames = frames
  event : step.event = if node.deed? = some .allocation then some .allocation else none
  console : step.console.isSome ↔ node.deed? = some .output

/-- From one state to the other the frames stay, and steps are added, one for each of the nodes in their order. -/
def State.Adds (nodes : List Expr) (before after : State) : Prop :=
  after.frames = before.frames ∧
    ∃ recorded, after.steps.toList = before.steps.toList ++ recorded ∧
      List.Forall₂ (Expr.Records before.frames) nodes recorded

/-- Wherever it is begun, the computation has added the steps of the nodes when it completes. -/
def Machine.Adds {α : Type} (nodes : List Expr) (computation : Machine α) : Prop :=
  ∀ start final result, computation.run start = .ok result final → State.Adds nodes start final

theorem State.Adds.of_same {before after : State} (frames : after.frames = before.frames)
    (steps : after.steps = before.steps) : State.Adds [] before after := by
  have none : after.steps.toList = before.steps.toList ++ [] := by rw [steps, List.append_nil]
  exact ⟨frames, [], none, .nil⟩

theorem State.Adds.trans {first second third : State} {earlier later : List Expr}
    (one : State.Adds earlier first second) (two : State.Adds later second third) :
    State.Adds (earlier ++ later) first third := by
  obtain ⟨kept, recorded, added, corresponds⟩ := one
  obtain ⟨keptAgain, more, addedAgain, correspondsAgain⟩ := two
  rw [kept] at correspondsAgain
  have all : third.steps.toList = first.steps.toList ++ (recorded ++ more) := by
    rw [addedAgain, added, List.append_assoc]
  exact ⟨keptAgain.trans kept, recorded ++ more, all, List.rel_append corresponds correspondsAgain⟩

namespace Machine.Adds

variable {α β : Type} {nodes earlier later : List Expr}

theorem fails (failure : Failure) : Adds nodes (raise failure : Machine α) := by
  intro start final result ended
  cases ended

theorem reading {computation : Machine α} (reads : computation.ReadsOnly) : Adds [] computation := by
  intro start final result ended
  have same := reads.state_of_ok ended
  subst same
  exact .of_same rfl rfl

theorem seq {first : Machine α} {next : α → Machine β} (one : Adds earlier first)
    (two : ∀ result, Adds later (next result)) : Adds (earlier ++ later) (first >>= next) := by
  intro start final result ended
  obtain ⟨value, middle, ended, followed⟩ := run_bind_eq_ok.mp ended
  exact (one start middle value ended).trans (two value middle final result followed)

/-- What comes first only looks at the state. -/
theorem after {first : Machine α} {next : α → Machine β} (reads : first.ReadsOnly)
    (adds : ∀ result, Adds nodes (next result)) : Adds nodes (first >>= next) :=
  (reading reads).seq adds

/-- What comes last only looks at the state. -/
theorem before {first : Machine α} {next : α → Machine β} (adds : Adds nodes first)
    (reads : ∀ result, (next result).ReadsOnly) : Adds nodes (first >>= next) := by
  have both := adds.seq fun result => reading (reads result)
  rw [List.append_nil] at both
  exact both

theorem marked {computation : Machine α} (sign : Mark) (adds : Adds nodes computation) :
    Adds nodes (mark sign >>= fun _ => computation) :=
  adds

theorem write (slot : Slot) (value : Value) : Adds [] (slot.write value) := by
  intro start final stored ended
  cases Slot.written_of_run ended <;> exact .of_same rfl rfl

theorem record {options : Options} {node : Expr} {console : Option Text} {event : Option Event}
    (marks : event = if node.deed? = some .allocation then some .allocation else none)
    (prints : console.isSome ↔ node.deed? = some .output) : Adds [node] (record options node.line console event) := by
  intro start final result ended
  rw [run_record] at ended
  split at ended
  · cases ended
  · cases ended
    exact ⟨rfl, _, Array.toList_push, .cons ⟨rfl, rfl, marks, prints⟩ .nil⟩

end Machine.Adds

section Operations

open Machine

variable {options : Options} (node : Expr)

theorem Expr.adds_operation {α : Type} (operates : node.deed? = some .operation) (result : α) :
    Adds [node] (record options node.line none none >>= fun _ => pure result) := by
  have added : Adds [node] (record options node.line none none) := by
    apply Adds.record <;> simp [operates]
  exact added.before fun _ => .pure result

theorem Expr.adds_allocate (allocates : node.deed? = some .allocation) (cell : Cell) :
    Adds [node] (allocate options node.line cell) := by
  have added : Adds [node] (record options node.line none (some .allocation)) := by
    apply Adds.record <;> simp [allocates]
  have grown : Adds [] (modify fun state => { state with heap := state.heap.allocate cell } : Machine Unit) := by
    intro start final result ended
    cases ended
    exact .of_same rfl rfl
  unfold allocate
  apply Adds.after .get
  intro state
  apply grown.seq
  intro _
  exact added.before fun _ => .pure _

theorem Expr.adds_store (operates : node.deed? = some .operation) (slot : Slot) (value : Value) :
    Adds [node] (store options node.line slot value) :=
  (Adds.write slot value).seq fun stored => node.adds_operation operates stored

theorem Expr.adds_storeCompound (operates : node.deed? = some .operation) (operator : String) (slot : Slot)
    (current operand : Value) : Adds [node] (storeCompound options node.line operator slot current operand) := by
  unfold storeCompound
  apply Adds.after .get
  intro state
  apply Adds.after (.ofOutcome _)
  intro result
  apply Adds.after (.ofOutcome _)
  intro narrowed
  exact node.adds_store operates slot narrowed

theorem Expr.adds_updateVariable (operates : node.deed? = some .operation) (form : UpdateForm)
    (operator name : String) : Adds [node] (updateVariable options node.line form operator name) := by
  unfold updateVariable
  apply Adds.after .get
  intro state
  apply Adds.after (.read _)
  intro current
  apply Adds.after (.ofOutcome _)
  intro next
  exact (node.adds_store operates _ next).before fun stored => .pure _

theorem Expr.adds_applyBinary (operates : node.deed? = some .operation) (operator : String) (left right : Value) :
    Adds [node] (applyBinary options node.line operator left right) := by
  unfold applyBinary
  apply Adds.after .get
  intro state
  exact Adds.after (.ofOutcome _) fun result => node.adds_operation operates result

theorem Expr.adds_applyUnary (operates : node.deed? = some .operation) (operator : String) (value : Value) :
    Adds [node] (applyUnary options node.line operator value) :=
  Adds.after (.ofOutcome _) fun result => node.adds_operation operates result

theorem Expr.adds_writeConsole (prints : node.deed? = some .output) (method : ConsoleMethod) (arguments : List Value) :
    Adds [node] (writeConsole options node.line method arguments) := by
  have added : ∀ output, Adds [node] (record options node.line (some output) none) := by
    intro output
    apply Adds.record <;> simp [prints]
  unfold writeConsole
  apply Adds.after .get
  intro state
  apply Adds.after (.ofOutcome _)
  intro output
  exact (added output).before fun _ => .pure _

theorem Expr.adds_makeArray (allocates : node.deed? = some .allocation) (elementType : String) (size : Value) :
    Adds [node] (makeArray options node.line elementType size) := by
  unfold makeArray
  split
  · exact .fails _
  · split
    · exact Adds.after (.ofOutcome _) fun _ => .fails _
    · exact node.adds_allocate allocates _

end Operations

theorem Expr.deeds_of_consoleMethod? {callee : Expr} {name : String} (found : callee.consoleMethod? = some name) :
    callee.deeds = [] := by
  unfold consoleMethod? at found
  split at found
  · rfl
  · cases found

section Expressions

open Machine

variable {context : Context} {calls : Calls}

/-- Evaluating the expression adds its steps, and so does finding the slot that it denotes. -/
structure Expr.AddsOwn (context : Context) (calls : Calls) (expression : Expr) : Prop where
  evaluated : Adds expression.deeds (expression.eval context calls)
  located : Adds expression.deeds (expression.locate context calls)

/-- An expression that denotes no slot. -/
theorem Expr.AddsOwn.of_evaluated {expression : Expr} {nodes : List Expr} {body : Machine Value}
    (own : expression.deeds = nodes) (adds : Adds nodes body)
    (opens : expression.eval context calls = mark (.evaluating expression) >>= fun _ => body)
    (refused : expression.locate context calls = failOn expression.line .invalidTarget) :
    expression.AddsOwn context calls := by
  constructor
  · rw [opens, own]
    exact adds
  · rw [refused]
    exact .fails _

theorem Expr.adds_evalAll {expressions : List Expr}
    (own : ∀ expression ∈ expressions, expression.AddsOwn context calls) :
    Adds (Expr.deedsAll expressions) (Expr.evalAll context calls expressions) := by
  induction expressions with
  | nil =>
      rw [Expr.evalAll.eq_1]
      exact .reading (.pure [])
  | cons expression others ih =>
      have first := own expression List.mem_cons_self
      have rest := ih fun other member => own other (List.mem_cons_of_mem _ member)
      rw [Expr.evalAll.eq_2, Expr.deedsAll_cons]
      apply first.evaluated.seq
      intro value
      exact rest.before fun values => .pure _

theorem Expr.adds_evalElements {expressions : List Expr} (elementType : String)
    (own : ∀ expression ∈ expressions, expression.AddsOwn context calls) :
    Adds (Expr.deedsAll expressions) (Expr.evalElements context calls elementType expressions) := by
  induction expressions with
  | nil =>
      rw [Expr.evalElements.eq_1]
      exact .reading (.pure [])
  | cons expression others ih =>
      have first := own expression List.mem_cons_self
      have rest := ih fun other member => own other (List.mem_cons_of_mem _ member)
      rw [Expr.evalElements.eq_2, Expr.deedsAll_cons]
      apply first.evaluated.seq
      intro value
      apply Adds.after (.ofOutcome _)
      intro stored
      exact rest.before fun values => .pure _

theorem Expr.elementary_of_mem {expressions : List Expr}
    (elementary : ∀ node ∈ Expr.postorderAll expressions, node.isElementary) :
    ∀ expression ∈ expressions, expression.Elementary := by
  induction expressions with
  | nil => simp
  | cons first others ih =>
      rw [Expr.postorderAll, List.forall_mem_append] at elementary
      intro expression member
      rcases List.mem_cons.mp member with rfl | later
      · exact elementary.1
      · exact ih elementary.2 expression later

/-- A method call on the console. The callee is of a form only, and nothing is recorded of it. -/
theorem Expr.adds_call {callee : Expr} {arguments : List Expr} (line : Nat)
    (prints : (callee.consoleMethod?.bind ConsoleMethod.ofName?).isSome)
    (own : ∀ argument ∈ arguments, argument.AddsOwn context calls) :
    Adds (Expr.deedsAll arguments ++ [Expr.call line callee arguments])
      ((Expr.call line callee arguments).eval context calls) := by
  obtain ⟨method, known⟩ := Option.isSome_iff_exists.mp prints
  obtain ⟨name, found, named⟩ := Option.bind_eq_some_iff.mp known
  rw [Expr.eval.eq_def]
  simp only [found, named]
  apply Adds.marked
  apply (adds_evalAll own).seq
  intro values
  exact adds_writeConsole (.call line callee arguments) rfl method values

theorem Expr.addsOwn_name (line : Nat) (symbol : String) : (Expr.name line symbol).AddsOwn context calls := by
  constructor
  · rw [Expr.eval.eq_def]
    exact Adds.marked _ (.reading (.lookup symbol))
  · rw [Expr.locate.eq_1]
    exact .reading (.ofName symbol)

theorem Expr.addsOwn_binary {left right : Expr} (line : Nat) (operator : String) (first : left.AddsOwn context calls)
    (second : right.AddsOwn context calls) : (Expr.binary line left operator right).AddsOwn context calls := by
  have split : (Expr.binary line left operator right).deeds =
      left.deeds ++ (right.deeds ++ [Expr.binary line left operator right]) := by
    rw [deeds_node rfl rfl, List.filter_append, List.append_assoc]
    rfl
  apply Expr.AddsOwn.of_evaluated split _ (Expr.eval.eq_def ..) (Expr.locate.eq_def ..)
  apply first.evaluated.seq
  intro leftValue
  apply second.evaluated.seq
  intro rightValue
  exact adds_applyBinary (.binary line left operator right) rfl operator leftValue rightValue

theorem Expr.addsOwn_unary {argument : Expr} (line : Nat) (operator : String)
    (inner : argument.AddsOwn context calls) : (Expr.unary line operator argument).AddsOwn context calls := by
  have split : (Expr.unary line operator argument).deeds = argument.deeds ++ [Expr.unary line operator argument] :=
    deeds_node rfl rfl
  apply Expr.AddsOwn.of_evaluated split _ (Expr.eval.eq_def ..) (Expr.locate.eq_def ..)
  apply inner.evaluated.seq
  intro value
  exact adds_applyUnary (.unary line operator argument) rfl operator value

theorem Expr.addsOwn_assign {target value : Expr} (line : Nat) (denoted : target.AddsOwn context calls)
    (given : value.AddsOwn context calls) : (Expr.assign line target value).AddsOwn context calls := by
  have split : (Expr.assign line target value).deeds =
      target.deeds ++ (value.deeds ++ [Expr.assign line target value]) := by
    rw [deeds_node rfl rfl, List.filter_append, List.append_assoc]
    rfl
  apply Expr.AddsOwn.of_evaluated split _ (Expr.eval.eq_def ..) (Expr.locate.eq_def ..)
  apply denoted.located.seq
  intro slot
  apply given.evaluated.seq
  intro newValue
  exact adds_store (.assign line target value) rfl slot newValue

theorem Expr.addsOwn_compound {target value : Expr} (line : Nat) (operator : String)
    (denoted : target.AddsOwn context calls) (given : value.AddsOwn context calls) :
    (Expr.compound line target operator value).AddsOwn context calls := by
  have split : (Expr.compound line target operator value).deeds =
      target.deeds ++ (value.deeds ++ [Expr.compound line target operator value]) := by
    rw [deeds_node rfl rfl, List.filter_append, List.append_assoc]
    rfl
  apply Expr.AddsOwn.of_evaluated split _ (Expr.eval.eq_def ..) (Expr.locate.eq_def ..)
  apply denoted.located.seq
  intro slot
  -- The old value is read between the two, which adds nothing.
  apply Adds.after (.read slot)
  intro current
  apply given.evaluated.seq
  intro operand
  exact adds_storeCompound (.compound line target operator value) rfl operator slot current operand

theorem Expr.addsOwn_update (line : Nat) (form : UpdateForm) (operator : String) (nameLine : Nat) (name : String) :
    (Expr.update line form operator nameLine name).AddsOwn context calls := by
  have alone : (Expr.update line form operator nameLine name).deeds = [Expr.update line form operator nameLine name] := rfl
  apply Expr.AddsOwn.of_evaluated alone _ (Expr.eval.eq_def ..) (Expr.locate.eq_def ..)
  exact adds_updateVariable (.update line form operator nameLine name) rfl form operator name

theorem Expr.addsOwn_index {object position : Expr} (line : Nat) (container : object.AddsOwn context calls)
    (number : position.AddsOwn context calls) : (Expr.index line object position).AddsOwn context calls := by
  have split : (Expr.index line object position).deeds = object.deeds ++ position.deeds := by
    simp [deeds, postorder, deed?]
  constructor
  · rw [Expr.eval.eq_def, split]
    apply Adds.marked
    apply container.evaluated.seq
    intro value
    exact number.evaluated.before fun index => .bind (.ofIndex line value index) fun slot => .read slot
  · rw [Expr.locate.eq_3, split]
    apply container.evaluated.seq
    intro value
    exact number.evaluated.before fun index => .ofIndex line value index

theorem Expr.addsOwn_field {object : Expr} (line nameLine : Nat) (name : String)
    (container : object.AddsOwn context calls) : (Expr.field line object nameLine name).AddsOwn context calls := by
  have same : (Expr.field line object nameLine name).deeds = object.deeds := by
    simp [deeds, postorder, deed?]
  constructor
  · rw [Expr.eval.eq_def, same]
    apply Adds.marked
    exact container.evaluated.before fun value => .bind (.ofField line value name) fun slot => .read slot
  · rw [Expr.locate.eq_2, same]
    exact container.evaluated.before fun value => .ofField line value name

theorem Expr.addsOwn_call {callee : Expr} {arguments : List Expr} (line : Nat)
    (prints : (callee.consoleMethod?.bind ConsoleMethod.ofName?).isSome)
    (own : ∀ argument ∈ arguments, argument.AddsOwn context calls) :
    (Expr.call line callee arguments).AddsOwn context calls := by
  obtain ⟨name, found, -⟩ := Option.bind_eq_some_iff.mp (Option.isSome_iff_exists.mp prints).choose_spec
  have split : (Expr.call line callee arguments).deeds = deedsAll arguments ++ [Expr.call line callee arguments] := by
    have nothing := deeds_of_consoleMethod? found
    unfold deeds at nothing
    rw [deeds_node rfl rfl, List.filter_append, nothing]
    rfl
  constructor
  · rw [split]
    exact adds_call line prints own
  · rw [Expr.locate.eq_def]
    exact .fails _

theorem Expr.addsOwn_newArray {size : Expr} (line : Nat) (elementType : String) (given : size.AddsOwn context calls) :
    (Expr.newArray line elementType size).AddsOwn context calls := by
  have split : (Expr.newArray line elementType size).deeds = size.deeds ++ [Expr.newArray line elementType size] :=
    deeds_node rfl rfl
  apply Expr.AddsOwn.of_evaluated split _ (Expr.eval.eq_def ..) (Expr.locate.eq_def ..)
  apply given.evaluated.seq
  intro value
  exact adds_makeArray (.newArray line elementType size) rfl elementType value

theorem Expr.addsOwn_arrayOf {values : List Expr} (line : Nat) (elementType : String)
    (own : ∀ value ∈ values, value.AddsOwn context calls) :
    (Expr.arrayOf line elementType values).AddsOwn context calls := by
  have split : (Expr.arrayOf line elementType values).deeds =
      deedsAll values ++ [Expr.arrayOf line elementType values] :=
    deeds_node rfl rfl
  apply Expr.AddsOwn.of_evaluated split _ (Expr.eval.eq_def ..) (Expr.locate.eq_def ..)
  apply (adds_evalElements elementType own).seq
  intro items
  exact adds_allocate (.arrayOf line elementType values) rfl _

/-- The nodes of an expression are elementary if it is and those of its operands are. -/
theorem Expr.addsOwn (expression : Expr) (elementary : expression.Elementary) : expression.AddsOwn context calls := by
  unfold Elementary at elementary
  induction expression using Expr.induction with
  | int | double | bool | string | null =>
      exact .of_evaluated rfl (.reading (.pure _)) (Expr.eval_literal rfl) (Expr.locate.eq_def ..)
  | char line raw =>
      exact .of_evaluated rfl (.reading (.literalChar raw)) (Expr.eval.eq_def ..) (Expr.locate.eq_def ..)
  | name line symbol => exact addsOwn_name line symbol
  | logical | conditional | create => exact absurd (elementary _ (mem_postorder_self _)) Bool.false_ne_true
  | binary line left operator right first second =>
      simp only [postorder, List.forall_mem_append] at elementary
      exact addsOwn_binary line operator (first elementary.1.1) (second elementary.1.2)
  | unary line operator argument ih =>
      simp only [postorder, List.forall_mem_append] at elementary
      exact addsOwn_unary line operator (ih elementary.1)
  | assign line target value located evaluated =>
      simp only [postorder, List.forall_mem_append] at elementary
      exact addsOwn_assign line (located elementary.1.1) (evaluated elementary.1.2)
  | compound line target operator value located evaluated =>
      simp only [postorder, List.forall_mem_append] at elementary
      exact addsOwn_compound line operator (located elementary.1.1) (evaluated elementary.1.2)
  | update line form operator nameLine name => exact addsOwn_update line form operator nameLine name
  | field line object nameLine name ih =>
      simp only [postorder, List.forall_mem_append] at elementary
      exact addsOwn_field line nameLine name (ih elementary.1)
  | index line object position container number =>
      simp only [postorder, List.forall_mem_append] at elementary
      exact addsOwn_index line (container elementary.1.1) (number elementary.1.2)
  | call line callee arguments _ given =>
      simp only [postorder, List.forall_mem_append, List.forall_mem_singleton] at elementary
      obtain ⟨⟨-, inner⟩, prints⟩ := elementary
      have known := elementary_of_mem inner
      exact addsOwn_call line prints fun argument member => given argument member (known argument member)
  | newArray line elementType size ih =>
      simp only [postorder, List.forall_mem_append] at elementary
      exact addsOwn_newArray line elementType (ih elementary.1)
  | arrayOf line elementType values ih =>
      simp only [postorder, List.forall_mem_append] at elementary
      have known := elementary_of_mem elementary.1
      exact addsOwn_arrayOf line elementType fun value member => ih value member (known value member)

end Expressions

/-- The steps that the evaluation of an elementary expression adds, if it completes, are those of its operations, arrays
and calls on the console, one for each, in the order in which these come behind their operands. -/
theorem steps_in_postorder (context : Context) (calls : Calls) (expression : Expr) (elementary : expression.Elementary)
    (start final : State) (value : Value) (ended : (expression.eval context calls).run start = .ok value final) :
    ∃ recorded, final.steps.toList = start.steps.toList ++ recorded ∧
      List.Forall₂ (Expr.Records start.frames) expression.deeds recorded :=
  ((expression.addsOwn elementary).evaluated start final value ended).2

/-- An assignment to an element of an array that is made for it, written to the console. -/
def Expr.printedAssignment : Expr :=
  .call 3 (.field 3 (.field 3 (.name 3 "System") 3 "out") 3 "print")
    [.assign 4 (.index 4 (.newArray 5 "int" (.int 5 2)) (.binary 6 (.int 6 0) "+" (.int 6 1))) (.unary 7 "-" (.int 7 3))]

def Context.empty (maxSteps : Nat) : Context where
  options := { maxSteps, mode := .all }
  program := { classes := [] }

theorem printed_assignment_in_postorder :
    ∃ final recorded,
      (Expr.printedAssignment.eval (.empty 5) (.within (.empty 5) 1)).run State.initial = .ok .void final ∧
      Expr.printedAssignment.Elementary ∧ Expr.printedAssignment.deeds.map Expr.line = [5, 6, 7, 4, 3] ∧
      final.steps.toList = State.initial.steps.toList ++ recorded ∧
      List.Forall₂ (Expr.Records State.initial.frames) Expr.printedAssignment.deeds recorded ∧
      recorded.map (fun step => (step.line, step.event, step.console)) =
        [(5, some .allocation, none), (6, none, none), (7, none, none), (4, none, none), (3, none, some (Text.ofString "-3"))] := by
  have yields : ((Expr.printedAssignment.eval (.empty 5) (.within (.empty 5) 1)).run State.initial).value? =
      some .void := by
    decide +kernel
  have shown : ((Expr.printedAssignment.eval (.empty 5) (.within (.empty 5) 1)).run State.initial).state.steps.toList.map
      (fun step => (step.line, step.event, step.console)) =
        [(5, some .allocation, none), (6, none, none), (7, none, none), (4, none, none), (3, none, some (Text.ofString "-3"))] := by
    decide +kernel
  obtain ⟨final, ended⟩ := Ending.exists_of_value? yields
  have elementary : Expr.printedAssignment.Elementary := by
    unfold Expr.Elementary
    decide +kernel
  obtain ⟨recorded, added, corresponds⟩ := steps_in_postorder _ _ _ elementary _ _ _ ended
  rw [ended, Ending.state, added] at shown
  exact ⟨final, recorded, ended, elementary, rfl, added, corresponds, shown⟩

end Stepwise
