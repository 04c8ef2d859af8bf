import Stepwise.Tree.Outline
import Stepwise.Proofs.Reading.Shape
import Stepwise.Proofs.Conduct.Run
import Stepwise.Proofs.SourceLines

/-!
# What reading guarantees to running

A tree that was read is well formed, as its outline shows node by node: the members of a class are methods and fields,
operators are among those that there are, targets can be assigned to, and so on. These are the forms that running knows
how to deal with. Operators travel as texts between the two, compound ones with a sign behind them that is cut off
again, so that the tables of the reader and of the evaluator have to agree; since they do, no run of a program that
was read ends in an issue that speaks of a form unknown to it.
-/

namespace Stepwise

set_option autoImplicit false

namespace Outline

def kind? : Outline → Option String
  | record kind _ => kind
  | _ => none

def part? (name : String) : Outline → Option Outline
  | record _ parts => parts.lookup name
  | _ => none

inductive Throughout (holds : Outline → Prop) : Outline → Prop
  | leaf {value : Json} (own : holds (leaf value)) : Throughout holds (leaf value)
  | list {items : List Outline} (own : holds (list items)) (inner : ∀ item ∈ items, Throughout holds item) :
      Throughout holds (list items)
  | record {kind : Option String} {parts : List (String × Outline)} (own : holds (record kind parts))
      (inner : ∀ part ∈ parts, Throughout holds part.2) : Throughout holds (record kind parts)

/-- A node is a declaration of a class or of a method. -/
def Encloses (outline : Outline) : Prop :=
  outline.kind? = some "ClassDeclaration" ∨ outline.kind? = some "MethodDeclaration"

def Reads (outline : Outline) (name : String) (texts : List String) : Prop :=
  ∃ value ∈ texts, outline.part? name = some (text value)

def Lists (outline : Outline) (name : String) (holds : Outline → Prop) : Prop :=
  ∃ items, outline.part? name = some (list items) ∧ ∀ item ∈ items, holds item

def Holds (outline : Outline) (name : String) (kinds : List String) : Prop :=
  ∃ part, outline.part? name = some part ∧ ∃ kind ∈ kinds, part.kind? = some kind

/-- What is asked of a node, by its kind. -/
def rule (kind : String) (node : Outline) : Prop :=
  match kind with
  | "ClassDeclaration" =>
      node.Lists "body" fun item =>
        item.kind? = some "MethodDeclaration" ∨ item.kind? = some "VariableDeclaration"
  | "MethodDeclaration" => node.Lists "body" (Throughout fun inner => ¬inner.Encloses)
  | "Param" => ∃ typeName, node.part? "type_name" = some (text typeName) ∧ typeName ≠ "void"
  | "BinaryExpr" => node.Reads "operator" ["+", "-", "*", "/", "%", "==", "!=", "<", ">", "<=", ">="]
  | "LogicalExpr" => node.Reads "operator" ["&&", "||"]
  | "UnaryExpr" => node.Reads "operator" ["!", "-"]
  | "AssignmentExpr" => node.Holds "assignee" ["Identifier", "MemberExpr"]
  | "CompoundAssignmentExpr" =>
      node.Holds "assignee" ["Identifier", "MemberExpr"] ∧ node.Reads "operator" ["+=", "-=", "*=", "/=", "%="]
  | "MemberExpr" =>
      node.part? "computed" = some (flag true) ∨
        node.part? "computed" = some (flag false) ∧ node.Holds "property" ["Identifier"]
  | "PrefixExpr" | "PostfixExpr" => node.Holds "argument" ["Identifier"]
  | "ArrayCreationExpr" =>
      ∃ size values, node.part? "size" = some size ∧ node.part? "values" = some values ∧
        (size ≠ absent ∧ values = absent ∨ size = absent ∧ values ≠ absent)
  | _ => True

/-- A node is as its kind asks. -/
def WellFormed (outline : Outline) : Prop :=
  ∀ kind, outline.kind? = some kind → rule kind outline

/-- A node that can stand inside the body of a method. -/
structure Inner (outline : Outline) : Prop where
  wellFormed : outline.WellFormed
  plain : ¬outline.Encloses

theorem Throughout.imp {holds weaker : Outline → Prop} {outline : Outline} (throughout : outline.Throughout holds)
    (weakens : ∀ inner, holds inner → weaker inner) : outline.Throughout weaker := by
  induction throughout with
  | leaf own => exact .leaf (weakens _ own)
  | list own inner ih => exact .list (weakens _ own) ih
  | record own inner ih => exact .record (weakens _ own) ih

theorem wellFormed_node {kind : String} {line : Nat} {parts : List (String × Outline)}
    (asked : rule kind (node kind line parts)) : (node kind line parts).WellFormed := by
  rintro _ ⟨⟩
  exact asked

theorem wellFormed_leaf (value : Json) : (leaf value).WellFormed := nofun

theorem wellFormed_list (items : List Outline) : (list items).WellFormed := nofun

theorem inner_leaf (value : Json) : (leaf value).Throughout Inner :=
  .leaf ⟨wellFormed_leaf value, by rintro (⟨⟨⟩⟩ | ⟨⟨⟩⟩)⟩

theorem inner_list {items : List Outline} (inner : ∀ item ∈ items, item.Throughout Inner) :
    (list items).Throughout Inner :=
  .list ⟨wellFormed_list items, by rintro (⟨⟨⟩⟩ | ⟨⟨⟩⟩)⟩ inner

theorem throughout_node {holds : Outline → Prop} {kind : String} {line : Nat} {parts : List (String × Outline)}
    (own : holds (node kind line parts)) (leaves : ∀ value, holds (leaf value))
    (inner : ∀ part ∈ parts, part.2.Throughout holds) : (node kind line parts).Throughout holds :=
  .record own (List.forall_mem_cons.mpr ⟨.leaf (leaves _), inner⟩)

theorem inner_node {kind : String} {line : Nat} {parts : List (String × Outline)} (asked : rule kind (node kind line parts))
    (plain : kind ≠ "ClassDeclaration" ∧ kind ≠ "MethodDeclaration") (inner : ∀ part ∈ parts, part.2.Throughout Inner) :
    (node kind line parts).Throughout Inner := by
  refine throughout_node ⟨wellFormed_node asked, ?_⟩ (fun value => ?_) inner
  · rintro (same | same)
    · exact plain.1 (Option.some.inj same)
    · exact plain.2 (Option.some.inj same)
  · cases inner_leaf value with
    | leaf own => exact own

end Outline

open Outline

theorem Expr.outlines_eq_map (expressions : List Expr) : Expr.outlines expressions = expressions.map Expr.outline := by
  induction expressions with
  | nil => rfl
  | cons expression others ih => rw [Expr.outlines, ih, List.map_cons]

theorem Stmt.outlines_eq_map (statements : List Stmt) : Stmt.outlines statements = statements.map Stmt.outline := by
  induction statements with
  | nil => rfl
  | cons statement others ih => rw [Stmt.outlines, ih, List.map_cons]

theorem Expr.outline_ne_absent (expression : Expr) : expression.outline ≠ absent := by
  cases expression <;> simp [Expr.outline, nameNode, node, absent]

theorem Expr.kind_of_isTarget {target : Expr} (targeted : target.isTarget = true) :
    ∃ kind ∈ ["Identifier", "MemberExpr"], target.outline.kind? = some kind := by
  cases target with
  | name line symbol => exact ⟨"Identifier", by simp, by simp [Expr.outline, nameNode, node, kind?]⟩
  | field line object nameLine name => exact ⟨"MemberExpr", by simp, by simp [Expr.outline, node, kind?]⟩
  | index line object position => exact ⟨"MemberExpr", by simp, by simp [Expr.outline, node, kind?]⟩
  | _ => cases targeted

theorem inner_nameNode (line : Nat) (symbol : String) : (nameNode line symbol).Throughout Inner :=
  inner_node trivial (by decide) (by simp [inner_leaf, text])

theorem mem_of_ofOperator? {operator : String} {level : Level} (ranked : Level.ofOperator? operator = some level) :
    if level = .disjunction ∨ level = .conjunction then operator ∈ ["&&", "||"]
    else operator ∈ ["+", "-", "*", "/", "%", "==", "!=", "<", ">", "<=", ">="] := by
  unfold Level.ofOperator? at ranked
  split at ranked
  all_goals first | (cases ranked; decide) | cases ranked

theorem inner_text (value : String) : (text value).Throughout Inner := inner_leaf _

theorem inner_outlines {expressions : List Expr} (inner : ∀ expression ∈ expressions, expression.outline.Throughout Inner) :
    (list (Expr.outlines expressions)).Throughout Inner := by
  rw [Expr.outlines_eq_map]
  exact inner_list (List.forall_mem_map.mpr inner)

theorem Expr.Shaped.inner {expression : Expr} (shaped : expression.Shaped) : expression.outline.Throughout Inner := by
  induction shaped with
  | int | double | bool | string | char =>
      rw [Expr.outline]
      exact inner_node trivial (by decide) (List.forall_mem_singleton.mpr (inner_leaf _))
  | null =>
      rw [Expr.outline]
      exact inner_node trivial (by decide) (List.forall_mem_nil _)
  | name line =>
      rw [Expr.outline]
      exact inner_nameNode line _
  | @binary line level left right operator ranked joins first second firstInner secondInner =>
      rw [Expr.outline]
      have known := mem_of_ofOperator? ranked
      rw [if_neg (not_or.mpr joins)] at known
      refine inner_node ⟨operator, known, rfl⟩ (by decide) ?_
      simp [firstInner, secondInner, inner_text]
  | @logical line level left right operator ranked joins first second firstInner secondInner =>
      rw [Expr.outline]
      have known := mem_of_ofOperator? ranked
      rw [if_pos joins] at known
      refine inner_node ⟨operator, known, rfl⟩ (by decide) ?_
      simp [firstInner, secondInner, inner_text]
  | unary line prefixed argument argumentInner =>
      rw [Expr.outline]
      refine inner_node ⟨_, prefixed, rfl⟩ (by decide) ?_
      simp [argumentInner, inner_text]
  | conditional line condition first second conditionInner firstInner secondInner =>
      rw [Expr.outline]
      refine inner_node trivial (by decide) ?_
      simp [conditionInner, firstInner, secondInner]
  | assign line targeted located evaluated targetInner valueInner =>
      rw [Expr.outline]
      refine inner_node ⟨_, rfl, Expr.kind_of_isTarget targeted⟩ (by decide) ?_
      simp [targetInner, valueInner]
  | compound line targeted combines located evaluated targetInner valueInner =>
      rw [Expr.outline]
      refine inner_node ⟨⟨_, rfl, Expr.kind_of_isTarget targeted⟩, _, combines, rfl⟩ (by decide) ?_
      simp [targetInner, valueInner, inner_text]
  | field line nameLine kind object objectInner =>
      rw [Expr.outline]
      refine inner_node (.inr ⟨rfl, _, rfl, "Identifier", List.mem_singleton_self _, rfl⟩) (by decide) ?_
      simp [objectInner, inner_nameNode, inner_leaf, flag]
  | index line container number containerInner numberInner =>
      rw [Expr.outline]
      refine inner_node (.inl rfl) (by decide) ?_
      simp [containerInner, numberInner, inner_leaf, flag]
  | call line called passed calledInner passedInner =>
      rw [Expr.outline]
      refine inner_node trivial (by decide) ?_
      simp [calledInner, inner_outlines passedInner]
  | create line kind =>
      rw [Expr.outline]
      exact inner_node trivial (by decide) (List.forall_mem_singleton.mpr (inner_text _))
  | @newArray line elementType size typed solid sized sizeInner =>
      rw [Expr.outline]
      refine inner_node ⟨_, _, rfl, rfl, .inl ⟨size.outline_ne_absent, rfl⟩⟩ (by decide) ?_
      simp [sizeInner, inner_text, inner_leaf, absent]
  | arrayOf line typed solid values valuesInner =>
      rw [Expr.outline]
      refine inner_node ⟨_, _, rfl, rfl, .inr ⟨rfl, nofun⟩⟩ (by decide) ?_
      simp [inner_outlines valuesInner, inner_text, inner_leaf, absent]
  | @update line nameLine form operator name steps kind =>
      rw [Expr.outline]
      have named : ∃ part, (node "" line [("operator", text operator), ("argument", nameNode nameLine name)]).part?
          "argument" = some part ∧ ∃ kind ∈ ["Identifier"], part.kind? = some kind :=
        ⟨_, rfl, "Identifier", List.mem_singleton_self _, rfl⟩
      cases form
      all_goals
        refine inner_node named (by decide) ?_
        simp [inner_text, inner_nameNode]

theorem Expr.inner_outline? {expression : Option Expr}
    (shaped : ∀ present, expression = some present → present.Shaped) : (Expr.outline? expression).Throughout Inner := by
  cases expression with
  | none => exact inner_leaf .null
  | some present => exact (shaped present rfl).inner

theorem Declaration.Shaped.inner {declaration : Declaration} (shaped : declaration.Shaped) :
    declaration.outline.Throughout Inner := by
  refine inner_node trivial (by decide) ?_
  simp [Expr.inner_outline? shaped.value, inner_text, inner_leaf, flag]

theorem ForInit.inner_outline? {init : Option ForInit} (shaped : ∀ clause, init = some clause → clause.Shaped) :
    (ForInit.outline? init).Throughout Inner := by
  cases init with
  | none => exact inner_leaf .null
  | some clause =>
      cases shaped clause rfl with
      | declare declared => exact declared.inner
      | evaluate line evaluated =>
          exact inner_node trivial (by decide) (List.forall_mem_singleton.mpr evaluated.inner)

theorem Stmt.Shaped.inner {statement : Stmt} (shaped : statement.Shaped) : statement.outline.Throughout Inner := by
  induction shaped with
  | declare declared =>
      rw [Stmt.outline]
      exact declared.inner
  | evaluate line evaluated =>
      rw [Stmt.outline]
      exact inner_node trivial (by decide) (List.forall_mem_singleton.mpr evaluated.inner)
  | block line body bodyInner =>
      rw [Stmt.outline, Stmt.outlines_eq_map]
      exact inner_node trivial (by decide)
        (List.forall_mem_singleton.mpr (inner_list (List.forall_mem_map.mpr bodyInner)))
  | ifThen line condition first firstInner =>
      rw [Stmt.outline]
      refine inner_node trivial (by decide) ?_
      simp [condition.inner, firstInner, inner_leaf, absent]
  | ifElse line condition first closed second firstInner secondInner =>
      rw [Stmt.outline]
      refine inner_node trivial (by decide) ?_
      simp [condition.inner, firstInner, secondInner]
  | while_ line condition body bodyInner | doWhile line condition body bodyInner =>
      rw [Stmt.outline]
      refine inner_node trivial (by decide) ?_
      simp [condition.inner, bodyInner]
  | for_ line first condition last body bodyInner =>
      rw [Stmt.outline]
      refine inner_node trivial (by decide) ?_
      simp [ForInit.inner_outline? first, Expr.inner_outline? condition, Expr.inner_outline? last, bodyInner]
  | return_ line value =>
      rw [Stmt.outline]
      exact inner_node trivial (by decide) (List.forall_mem_singleton.mpr (Expr.inner_outline? value))
  | break_ line | continue_ line =>
      rw [Stmt.outline]
      exact inner_node trivial (by decide) (List.forall_mem_nil _)

theorem Param.Shaped.inner {param : Param} (shaped : param.Shaped) : param.outline.Throughout Inner := by
  have solid : param.typeName ≠ "void" := by
    intro same
    have typed := shaped.typed
    rw [same] at typed
    generalize spelled : "void" = typeName at typed
    cases typed with
    | plain kind bare =>
        rw [← spelled] at kind
        exact kind.2 (by decide)
    | array kind =>
        have ends := congrArg (fun text => text.toList.getLast?) spelled
        simp at ends
  refine inner_node ⟨_, rfl, solid⟩ (by decide) ?_
  simp [inner_text]

theorem Method.Shaped.wellFormed {method : Method} (shaped : method.Shaped) :
    method.outline.Throughout WellFormed := by
  have body : ∀ item ∈ Stmt.outlines method.body, item.Throughout Inner := by
    rw [Stmt.outlines_eq_map]
    exact List.forall_mem_map.mpr fun statement member => (shaped.body statement member).inner
  have params : ∀ item ∈ method.params.map Param.outline, item.Throughout Inner :=
    List.forall_mem_map.mpr fun param member => (shaped.params param member).inner
  have fine : ∀ outline : Outline, outline.Inner → outline.WellFormed := fun _ inner => inner.wellFormed
  refine throughout_node (wellFormed_node ⟨_, rfl, fun item member => ?_⟩) wellFormed_leaf ?_
  · exact (body item member).imp fun _ inner => inner.plain
  · simp [(inner_text _).imp fine, (inner_list params).imp fine, (inner_list body).imp fine]

theorem Member.Shaped.wellFormed {member : Member} (shaped : member.Shaped) :
    member.outline.Throughout WellFormed := by
  cases shaped with
  | method declared => exact declared.wellFormed
  | field declared => exact declared.inner.imp fun _ inner => inner.wellFormed

theorem Member.kind_outline (member : Member) :
    member.outline.kind? = some "MethodDeclaration" ∨ member.outline.kind? = some "VariableDeclaration" := by
  cases member with
  | method => exact .inl rfl
  | field => exact .inr rfl

theorem ClassDecl.Shaped.wellFormed {decl : ClassDecl} (shaped : decl.Shaped) :
    decl.outline.Throughout WellFormed := by
  have own : rule "ClassDeclaration" decl.outline :=
    ⟨_, rfl, List.forall_mem_map.mpr fun member _ => member.kind_outline⟩
  refine throughout_node (wellFormed_node own) wellFormed_leaf ?_
  have members : ∀ item ∈ decl.body.map Member.outline, item.Throughout WellFormed :=
    List.forall_mem_map.mpr fun member present => (shaped.body member present).wellFormed
  have body := Throughout.list (wellFormed_list _) members
  simp [body, (inner_text _).imp fun _ inner => inner.wellFormed]

/-- What the grammar knows is well formed. -/
theorem Program.Shaped.wellFormed {program : Program} (shaped : program.Shaped) :
    program.outline.Throughout WellFormed := by
  have classes : ∀ item ∈ program.classes.map ClassDecl.outline, item.Throughout WellFormed :=
    List.forall_mem_map.mpr fun decl member => (shaped decl member).wellFormed
  refine throughout_node (wellFormed_node trivial) wellFormed_leaf ?_
  exact List.forall_mem_singleton.mpr (.list (wellFormed_list _) classes)

/-- How messages about forms that running does not know begin. -/
def Failure.internalTexts : List String :=
  ["Unsupported statement", "Unexpected", "Unsupported expression", "Unsupported operator", "Unsupported unary operator",
    "Invalid assignment target."]

/-- The message of the failure is about a form that running does not know. -/
def Failure.Internal (failure : Failure) : Prop :=
  ∃ opening ∈ internalTexts, opening.toList <+: failure.message.toList

/-- The first letters of these messages. No other message begins with them. -/
def Failure.internalLetters : List (List Char) :=
  [['U', 'n', 's'], ['U', 'n', 'e'], ['I', 'n', 'v']]

theorem Failure.Internal.letters {failure : Failure} (isInternal : failure.Internal) :
    failure.message.toList.take 3 ∈ internalLetters := by
  obtain ⟨opening, member, rest, same⟩ := isInternal
  have opens : ∀ opening ∈ internalTexts, 3 ≤ opening.toList.length ∧ opening.toList.take 3 ∈ internalLetters := by
    simp [internalTexts, internalLetters]
  rw [← same, List.take_append_of_le_length (opens opening member).1]
  exact (opens opening member).2

def Failure.OpensApart (message : String) : Prop :=
  ∃ first second third rest,
    message.toList = first :: second :: third :: rest ∧ [first, second, third] ∉ internalLetters

namespace Failure.OpensApart

theorem literal {first second third : Char} {rest : List Char} (apart : [first, second, third] ∉ internalLetters) :
    OpensApart (String.ofList (first :: second :: third :: rest)) :=
  ⟨first, second, third, rest, String.toList_ofList, apart⟩

theorem append {opening rest : String} (opens : OpensApart opening) : OpensApart (opening ++ rest) := by
  obtain ⟨first, second, third, others, same, apart⟩ := opens
  exact ⟨first, second, third, others ++ rest.toList, by rw [String.toList_append, same]; rfl, apart⟩

theorem not_internal {failure : Failure} (opens : OpensApart failure.message) : ¬failure.Internal := by
  intro isInternal
  have letters := isInternal.letters
  obtain ⟨first, second, third, rest, same, apart⟩ := opens
  rw [same] at letters
  exact apart letters

end Failure.OpensApart

open Failure in
theorem Issue.opensApart_of_ordinary {issue : Issue} (ordinary : issue.Ordinary) : OpensApart issue.message := by
  unfold message
  cases issue
  case unsupportedOperator | unsupportedUnary | invalidTarget | outsideLoop => exact ordinary.elim
  case stackOverflow | divisionByZero | noSteps | noEntryPoint | infiniteInteger | lengthIsFinal | staticCall
      | notCallable =>
    exact OpensApart.literal (by decide)
  -- What is left is put together from several texts, of which the first one decides.
  all_goals
    simp only [String.append_assoc]
    exact OpensApart.append (OpensApart.literal (by decide))

open Failure in
theorem Issue.opensApart_outsideLoop (jump : Jump) : OpensApart (Issue.outsideLoop jump).message := by
  cases jump
  · exact ⟨'\'', 'b', 'r', _, rfl, by decide⟩
  · exact ⟨'\'', 'c', 'o', _, rfl, by decide⟩

open Failure in
theorem Fault.opensApart (fault : Fault) : OpensApart fault.message := by
  unfold message
  cases fault with
  | charOutOfRange | remainderOfInfinity | integerTooLargeForDouble | missingHandle =>
      exact OpensApart.literal (by decide)
  | tooManyPlaces places =>
      dsimp only
      split <;> exact OpensApart.literal (by decide)
  | integerLiteralTooLong digits => exact OpensApart.append (OpensApart.append (OpensApart.literal (by decide)))
  | integerTextTooLong | malformedInteger | malformedDouble | malformedCharacter =>
      exact OpensApart.append (OpensApart.literal (by decide))

theorem Failure.Ordinary.not_internal {failure : Failure} (ordinary : failure.Ordinary) : ¬failure.Internal := by
  cases failure with
  | issue cause line => exact OpensApart.not_internal (cause.opensApart_of_ordinary ordinary)
  | fault fault => exact OpensApart.not_internal fault.opensApart

theorem Failure.message_attributed (failure : Failure) (line : Nat) : (failure.attributed line).message = failure.message := by
  cases failure with
  | issue cause own => cases own <;> rfl
  | fault fault => rfl

/-- The operators that the grammar knows are among those that evaluation knows. -/
theorem Expr.Shaped.fit {expression : Expr} (shaped : expression.Shaped) (cause : Issue) : ¬expression.Unfit cause := by
  intro unfit
  cases unfit with
  | binary unknown =>
      cases shaped with
      | binary line ranked joins first second =>
          have known := mem_of_ofOperator? ranked
          rw [if_neg (not_or.mpr joins)] at known
          have all : ∀ operator ∈ ["+", "-", "*", "/", "%", "==", "!=", "<", ">", "<=", ">="],
              BinaryOperator.ofSpelling? operator ≠ none := by decide
          exact all _ known unknown
  | unary unknown =>
      cases shaped with
      | unary line prefixed inner => simp [unknown] at prefixed
  | compound unknown =>
      cases shaped with
      | compound line targeted combines located evaluated =>
          have all : ∀ operator ∈ ["+=", "-=", "*=", "/=", "%="],
              BinaryOperator.ofSpelling? (compoundOperator operator) ≠ none := by decide
          exact all _ combines unknown
  | assign misplaced =>
      cases shaped with
      | assign line targeted located evaluated => exact Bool.false_ne_true (misplaced.symm.trans targeted)
  | compoundAssign misplaced =>
      cases shaped with
      | compound line targeted combines located evaluated =>
          exact Bool.false_ne_true (misplaced.symm.trans targeted)

namespace Conduct

/-- Running expressions that the grammar knows does not end in an issue about an unknown form. -/
def familiar (context : Context) : Conduct context where
  node expression := expression.Shaped
  leads _ _ _ := True
  tolerates failure := ¬failure.Internal

theorem familiar_laws (context : Context) : (familiar context).Laws where
  trans _ _ := trivial
  quiet _ _ _ := trivial
  recorded _ _ _ _ _ := trivial
  framed _ _ := trivial
  ordinary ordinary := ordinary.not_internal
  unfit _ shaped unfit := (shaped.fit _ unfit).elim
  astray _ _ _ := Failure.OpensApart.not_internal (Issue.opensApart_outsideLoop _)

end Conduct

/-- A program that compiles is well formed throughout, and whatever the options, its run does not end in an issue about
a form that is unknown to it. -/
theorem compiled_well_formed {source : String} {compiled : Compiled} (accepted : compile source = .ok compiled) :
    compiled.program.outline.Throughout WellFormed ∧
      ∀ options failure, compiled.program.trace options = .error failure → ¬failure.Internal := by
  refine ⟨(shaped_of_compile accepted).wellFormed, fun options failure failed => ?_⟩
  unfold Program.trace at failed
  split at failed
  · cases failed
  · next cause state ended =>
      cases failed
      have tolerated := (Conduct.execute_conducted (Conduct.familiar_laws { options, program := compiled.program })
        (shaped_expressions_of_compile accepted)).2 ended
      rwa [Failure.Internal, Failure.message_attributed]

/-- Operators and targets of many kinds, and an operand that one of the operators is not made for. -/
def mixedForms : String :=
  "class Main \x7b\n  void main() \x7b\n    int[] few = \x7b1\x7d;\n" ++
    "    if (!(few[0] == 0) && -few[0] < 2) few[0] -= true;\n  \x7d\n\x7d"

theorem mixedForms_well_formed :
    ∃ compiled, compile mixedForms = .ok compiled ∧ compiled.program.outline.Throughout WellFormed ∧
      compiled.program.trace { maxSteps := 100, mode := .local_ } =
        .error (.onLine 4 (.operandKinds "-" .int .boolean)) ∧
      ¬(Failure.onLine 4 (.operandKinds "-" .int .boolean)).Internal := by
  have reports : errorOf? (interpret mixedForms 100 "local") =
      some (.failed (.onLine 4 (.operandKinds "-" .int .boolean))) := by
    rw [interpret, compile, scan, toList_of_written mixedForms String.ofList_append.symm]
    decide +kernel
  have fails := eq_error_of_errorOf? reports
  cases accepted : compile mixedForms with
  | error rejection =>
      rw [interpret, accepted] at fails
      cases fails
  | ok compiled =>
      obtain ⟨shown, silent⟩ := compiled_well_formed accepted
      rw [interpret_of_accepted accepted rfl] at fails
      rcases failed_of_reported fails with failed | impossible
      · exact ⟨compiled, rfl, shown, failed, silent _ _ failed⟩
      · cases impossible

end Stepwise
