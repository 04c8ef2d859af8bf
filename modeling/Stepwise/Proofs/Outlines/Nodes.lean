import Stepwise.Proofs.Outlines

/-!
# The outlines of syntax trees

A node is shown with the name of its kind, its line and all it consists of. The kind tells the form of the node, and
the parts are told apart by their place, so that the outline of a tree determines the tree. A part that may be missing
is shown as null, which no node is shown as; a missing part cannot be taken for a present one.

Every record in such an outline is tagged by its kind, and shows without a loss whatever does not lie too deep.
-/

namespace Stepwise

set_option autoImplicit false

open Outline

namespace Outline

theorem tagged_text (value : String) : (text value).Throughout Tagged := .leaf trivial

theorem tagged_flag (value : Bool) : (flag value).Throughout Tagged := .leaf trivial

theorem tagged_absent : absent.Throughout Tagged := .leaf trivial

theorem tagged_list {α : Type} {items : List α} {show_ : α → Outline}
    (inner : ∀ item ∈ items, (show_ item).Throughout Tagged) : (list (items.map show_)).Throughout Tagged :=
  .list trivial (List.forall_mem_map.mpr inner)

theorem tagged_node {kind : String} {line : Nat} {parts : List (String × Outline)}
    (apart : "kind" ∉ parts.map Prod.fst) (inner : ∀ part ∈ parts, part.2.Throughout Tagged) :
    (node kind line parts).Throughout Tagged := by
  refine .record ⟨rfl, ?_⟩ (List.forall_mem_cons.mpr ⟨.leaf trivial, inner⟩)
  rw [List.map_cons, List.mem_cons, not_or]
  exact ⟨by simp, apart⟩

theorem tagged_nameNode (line : Nat) (symbol : String) : (nameNode line symbol).Throughout Tagged :=
  tagged_node (by simp) (List.forall_mem_singleton.mpr (tagged_text symbol))

@[simp]
theorem text_inj {one other : String} : text one = text other ↔ one = other := by
  simp only [text, leaf.injEq, Json.string.injEq, Text.ofString_inj]

@[simp]
theorem flag_inj {one other : Bool} : flag one = flag other ↔ one = other := by
  simp only [flag, leaf.injEq, Json.bool.injEq]

@[simp]
theorem node_inj {kind other : String} {line otherLine : Nat} {parts others : List (String × Outline)} :
    node kind line parts = node other otherLine others ↔ kind = other ∧ line = otherLine ∧ parts = others := by
  simp only [node, nat, record.injEq, Option.some.injEq, List.cons.injEq, Prod.mk.injEq, leaf.injEq, Json.int.injEq,
    Int.ofNat_inj, true_and]

theorem updateKind_inj {one other : UpdateForm} :
    (if one = .before then "PrefixExpr" else "PostfixExpr") =
      (if other = .before then "PrefixExpr" else "PostfixExpr") ↔ one = other := by
  cases one <;> cases other <;> simp

theorem items_inj {α : Type} {items others : List α} {show_ : α → Outline}
    (each : ∀ item ∈ items, ∀ other, show_ item = show_ other → item = other)
    (same : items.map show_ = others.map show_) : items = others :=
  eq_of_map_eq (fun item member other _ => each item member other) same

theorem optional_inj {α : Type} {show_ : α → Outline} (present : ∀ item, show_ item ≠ absent)
    (each : ∀ item other, show_ item = show_ other → item = other) {one other : Option α}
    (same : (one.map show_).getD absent = (other.map show_).getD absent) : one = other := by
  cases one with
  | none =>
      cases other with
      | none => rfl
      | some other => exact absurd same.symm (present other)
  | some one =>
      cases other with
      | none => exact absurd same (present one)
      | some other => rw [each one other same]

end Outline

theorem Expr.tagged (expression : Expr) : expression.outline.Throughout Tagged := by
  induction expression using Expr.induction with
  | int line value | double line value | bool line value | string line raw | char line raw =>
      rw [outline]
      exact tagged_node (by simp) (List.forall_mem_singleton.mpr (.leaf trivial))
  | null line =>
      rw [outline]
      exact tagged_node (by simp) (List.forall_mem_nil _)
  | name line symbol =>
      rw [outline]
      exact tagged_nameNode line symbol
  | binary line left operator right leftTagged rightTagged | logical line left operator right leftTagged rightTagged =>
      rw [outline]
      exact tagged_node (by simp) (by simp [leftTagged, rightTagged, tagged_text])
  | unary line operator argument argumentTagged =>
      rw [outline]
      exact tagged_node (by simp) (by simp [argumentTagged, tagged_text])
  | conditional line test consequent alternate testTagged consequentTagged alternateTagged =>
      rw [outline]
      exact tagged_node (by simp) (by simp [testTagged, consequentTagged, alternateTagged])
  | assign line target value targetTagged valueTagged =>
      rw [outline]
      exact tagged_node (by simp) (by simp [targetTagged, valueTagged])
  | compound line target operator value targetTagged valueTagged =>
      rw [outline]
      exact tagged_node (by simp) (by simp [targetTagged, valueTagged, tagged_text])
  | field line object nameLine name objectTagged =>
      rw [outline]
      exact tagged_node (by simp) (by simp [objectTagged, tagged_nameNode, tagged_flag])
  | index line object position objectTagged positionTagged =>
      rw [outline]
      exact tagged_node (by simp) (by simp [objectTagged, positionTagged, tagged_flag])
  | call line callee arguments calleeTagged argumentsTagged =>
      rw [outline, outlines_eq_map]
      exact tagged_node (by simp) (by simp [calleeTagged, tagged_list argumentsTagged])
  | create line className =>
      rw [outline]
      exact tagged_node (by simp) (List.forall_mem_singleton.mpr (tagged_text className))
  | newArray line elementType size sizeTagged =>
      rw [outline]
      exact tagged_node (by simp) (by simp [sizeTagged, tagged_text, tagged_absent])
  | arrayOf line elementType values valuesTagged =>
      rw [outline, outlines_eq_map]
      exact tagged_node (by simp) (by simp [tagged_list valuesTagged, tagged_text, tagged_absent])
  | update line form operator nameLine name =>
      rw [outline]
      exact tagged_node (by simp) (by simp [tagged_text, tagged_nameNode])

/-- A tree is known by its outline: the kind tells its form, and a form shows all that it consists of. -/
theorem Expr.eq_of_outline_eq (one other : Expr) (same : one.outline = other.outline) : one = other := by
  induction one using Expr.induction generalizing other with
  | int line value | double line value =>
      cases other <;> simp [outline, nameNode, eq_ite_iff] at same
      obtain ⟨rfl, rfl⟩ := same
      rfl
  | bool line value | string line raw | char line raw | name line symbol | create line className =>
      cases other <;> simp [outline, nameNode, eq_ite_iff] at same
      obtain ⟨rfl, rfl⟩ := same
      rfl
  | null line =>
      cases other <;> simp [outline, nameNode, eq_ite_iff] at same
      obtain rfl := same
      rfl
  | binary line left operator right leftSame rightSame | logical line left operator right leftSame rightSame =>
      cases other <;> simp [outline, nameNode, eq_ite_iff] at same
      obtain ⟨rfl, first, rfl, second⟩ := same
      rw [leftSame _ first, rightSame _ second]
  | unary line operator argument argumentSame =>
      cases other <;> simp [outline, nameNode, eq_ite_iff] at same
      obtain ⟨rfl, rfl, shown⟩ := same
      rw [argumentSame _ shown]
  | conditional line test consequent alternate testSame consequentSame alternateSame =>
      cases other <;> simp [outline, nameNode, eq_ite_iff] at same
      obtain ⟨rfl, first, second, third⟩ := same
      rw [testSame _ first, consequentSame _ second, alternateSame _ third]
  | assign line target value targetSame valueSame =>
      cases other <;> simp [outline, nameNode, eq_ite_iff] at same
      obtain ⟨rfl, first, second⟩ := same
      rw [targetSame _ first, valueSame _ second]
  | compound line target operator value targetSame valueSame =>
      cases other <;> simp [outline, nameNode, eq_ite_iff] at same
      obtain ⟨rfl, first, rfl, second⟩ := same
      rw [targetSame _ first, valueSame _ second]
  | field line object nameLine name objectSame =>
      cases other <;> simp [outline, nameNode, eq_ite_iff] at same
      obtain ⟨rfl, shown, ⟨rfl, rfl⟩⟩ := same
      rw [objectSame _ shown]
  | index line object position objectSame positionSame =>
      cases other <;> simp [outline, nameNode, eq_ite_iff] at same
      obtain ⟨rfl, first, second⟩ := same
      rw [objectSame _ first, positionSame _ second]
  | call line callee arguments calleeSame argumentsSame =>
      cases other <;> simp [outline, nameNode, outlines_eq_map, eq_ite_iff] at same
      obtain ⟨rfl, first, second⟩ := same
      rw [calleeSame _ first, items_inj argumentsSame second]
  | newArray line elementType size sizeSame =>
      cases other <;> simp [outline, nameNode, outline_ne_absent, eq_ite_iff] at same
      obtain ⟨rfl, rfl, shown⟩ := same
      rw [sizeSame _ shown]
  | arrayOf line elementType values valuesSame =>
      cases other <;> simp [outline, nameNode, outlines_eq_map, (outline_ne_absent _).symm, eq_ite_iff] at same
      obtain ⟨rfl, rfl, shown⟩ := same
      rw [items_inj valuesSame shown]
  | update line form operator nameLine name =>
      cases other with
      | update otherLine otherForm otherOperator otherNameLine otherName =>
          simp [outline, nameNode, updateKind_inj] at same
          obtain ⟨rfl, rfl, rfl, rfl, rfl⟩ := same
          rfl
      | _ => simp [outline, nameNode, ite_eq_iff] at same

theorem Expr.tagged? (expression : Option Expr) : (Expr.outline? expression).Throughout Tagged := by
  cases expression with
  | none => exact tagged_absent
  | some present => exact present.tagged

theorem Expr.eq_of_outline?_eq {one other : Option Expr} (same : Expr.outline? one = Expr.outline? other) :
    one = other := by
  refine optional_inj outline_ne_absent eq_of_outline_eq ?_
  cases one <;> cases other <;> exact same

theorem Declaration.tagged (declaration : Declaration) : declaration.outline.Throughout Tagged := by
  rw [outline]
  exact tagged_node (by simp) (by simp [tagged_text, tagged_flag, Expr.tagged?])

theorem Declaration.eq_of_outline_eq {one other : Declaration} (same : one.outline = other.outline) : one = other := by
  cases one with
  | mk line typeName name value isStatic =>
      cases other with
      | mk =>
          simp [outline] at same
          obtain ⟨rfl, rfl, rfl, shown, rfl⟩ := same
          rw [Expr.eq_of_outline?_eq shown]

theorem ForInit.tagged? (init : Option ForInit) : (ForInit.outline? init).Throughout Tagged := by
  cases init with
  | none => exact tagged_absent
  | some clause =>
      cases clause with
      | declare declaration => exact declaration.tagged
      | evaluate line expression =>
          exact tagged_node (by simp) (List.forall_mem_singleton.mpr expression.tagged)

theorem ForInit.outline_ne_absent (init : ForInit) : init.outline ≠ absent := by
  cases init <;> simp [outline, Declaration.outline, node, absent]

theorem ForInit.eq_of_outline_eq {one other : ForInit} (same : one.outline = other.outline) : one = other := by
  cases one with
  | declare declaration =>
      cases other with
      | declare other => rw [Declaration.eq_of_outline_eq same]
      | evaluate => simp [outline, Declaration.outline] at same
  | evaluate line expression =>
      cases other with
      | declare => simp [outline, Declaration.outline] at same
      | evaluate otherLine other =>
          simp [outline] at same
          obtain ⟨rfl, shown⟩ := same
          rw [expression.eq_of_outline_eq other shown]

theorem ForInit.eq_of_outline?_eq {one other : Option ForInit} (same : ForInit.outline? one = ForInit.outline? other) :
    one = other := by
  refine optional_inj outline_ne_absent (fun _ _ => eq_of_outline_eq) ?_
  cases one <;> cases other <;> exact same

theorem Stmt.tagged (statement : Stmt) : statement.outline.Throughout Tagged := by
  induction statement using Stmt.induction with
  | declare declaration =>
      rw [outline]
      exact declaration.tagged
  | evaluate line expression =>
      rw [outline]
      exact tagged_node (by simp) (List.forall_mem_singleton.mpr expression.tagged)
  | block line body bodyTagged =>
      rw [outline, outlines_eq_map]
      exact tagged_node (by simp) (List.forall_mem_singleton.mpr (tagged_list bodyTagged))
  | ifThen line test consequent consequentTagged =>
      rw [outline]
      exact tagged_node (by simp) (by simp [test.tagged, consequentTagged, tagged_absent])
  | ifElse line test consequent alternate consequentTagged alternateTagged =>
      rw [outline]
      exact tagged_node (by simp) (by simp [test.tagged, consequentTagged, alternateTagged])
  | while_ line test body bodyTagged | doWhile line test body bodyTagged =>
      rw [outline]
      exact tagged_node (by simp) (by simp [test.tagged, bodyTagged])
  | for_ line init test update body bodyTagged =>
      rw [outline]
      exact tagged_node (by simp) (by simp [ForInit.tagged?, Expr.tagged?, bodyTagged])
  | return_ line argument =>
      rw [outline]
      exact tagged_node (by simp) (List.forall_mem_singleton.mpr (Expr.tagged? argument))
  | break_ line | continue_ line =>
      rw [outline]
      exact tagged_node (by simp) (List.forall_mem_nil _)

theorem Stmt.outline_ne_absent (statement : Stmt) : statement.outline ≠ absent := by
  cases statement <;> simp [outline, Declaration.outline, node, absent]

theorem Stmt.eq_of_outline_eq (one other : Stmt) (same : one.outline = other.outline) : one = other := by
  induction one using Stmt.induction generalizing other with
  | declare declaration =>
      cases other with
      | declare other =>
          rw [outline, outline] at same
          rw [Declaration.eq_of_outline_eq same]
      | _ => simp [outline, Declaration.outline] at same
  | evaluate line expression =>
      cases other <;> simp [outline, Declaration.outline] at same
      obtain ⟨rfl, shown⟩ := same
      rw [expression.eq_of_outline_eq _ shown]
  | block line body bodySame =>
      cases other <;> simp [outline, Declaration.outline, outlines_eq_map] at same
      obtain ⟨rfl, shown⟩ := same
      rw [items_inj bodySame shown]
  | ifThen line test consequent consequentSame =>
      cases other <;> simp [outline, Declaration.outline, (outline_ne_absent _).symm] at same
      obtain ⟨rfl, first, second⟩ := same
      rw [test.eq_of_outline_eq _ first, consequentSame _ second]
  | ifElse line test consequent alternate consequentSame alternateSame =>
      cases other <;> simp [outline, Declaration.outline, outline_ne_absent] at same
      obtain ⟨rfl, first, second, third⟩ := same
      rw [test.eq_of_outline_eq _ first, consequentSame _ second, alternateSame _ third]
  | while_ line test body bodySame | doWhile line test body bodySame =>
      cases other <;> simp [outline, Declaration.outline] at same
      obtain ⟨rfl, first, second⟩ := same
      rw [test.eq_of_outline_eq _ first, bodySame _ second]
  | for_ line init test update body bodySame =>
      cases other <;> simp [outline, Declaration.outline] at same
      obtain ⟨rfl, first, second, third, last⟩ := same
      rw [ForInit.eq_of_outline?_eq first, Expr.eq_of_outline?_eq second, Expr.eq_of_outline?_eq third, bodySame _ last]
  | return_ line argument =>
      cases other <;> simp [outline, Declaration.outline] at same
      obtain ⟨rfl, shown⟩ := same
      rw [Expr.eq_of_outline?_eq shown]
  | break_ line | continue_ line =>
      cases other <;> simp only [outline, Declaration.outline, node_inj, String.reduceEq, false_and, true_and, and_true]
        at same
      rw [same]

theorem Param.tagged (param : Param) : param.outline.Throughout Tagged := by
  rw [outline]
  exact tagged_node (by simp) (by simp [tagged_text])

theorem Param.eq_of_outline_eq {one other : Param} (same : one.outline = other.outline) : one = other := by
  cases one with
  | mk line typeName name =>
      cases other with
      | mk =>
          simp [outline] at same
          obtain ⟨rfl, rfl, rfl⟩ := same
          rfl

theorem Method.tagged (method : Method) : method.outline.Throughout Tagged := by
  rw [outline, Stmt.outlines_eq_map]
  have params := tagged_list fun param (_ : param ∈ method.params) => param.tagged
  have body := tagged_list fun statement (_ : statement ∈ method.body) => statement.tagged
  exact tagged_node (by simp) (by simp [tagged_text, params, body])

theorem Method.eq_of_outline_eq {one other : Method} (same : one.outline = other.outline) : one = other := by
  cases one with
  | mk line returnType name params body =>
      cases other with
      | mk =>
          simp [outline, Stmt.outlines_eq_map] at same
          obtain ⟨rfl, rfl, rfl, paramsSame, bodySame⟩ := same
          rw [items_inj (fun _ _ _ => Param.eq_of_outline_eq) paramsSame,
            items_inj (fun statement _ => statement.eq_of_outline_eq) bodySame]

theorem Member.tagged (member : Member) : member.outline.Throughout Tagged := by
  cases member with
  | method declaration => exact declaration.tagged
  | field declaration => exact declaration.tagged

theorem Member.eq_of_outline_eq {one other : Member} (same : one.outline = other.outline) : one = other := by
  cases one with
  | method declaration =>
      cases other with
      | method other => rw [Method.eq_of_outline_eq same]
      | field other => simp [outline, Method.outline, Declaration.outline] at same
  | field declaration =>
      cases other with
      | method other => simp [outline, Method.outline, Declaration.outline] at same
      | field other => rw [Declaration.eq_of_outline_eq same]

theorem ClassDecl.tagged (decl : ClassDecl) : decl.outline.Throughout Tagged := by
  rw [outline]
  have body := tagged_list fun member (_ : member ∈ decl.body) => member.tagged
  exact tagged_node (by simp) (by simp [tagged_text, body])

theorem ClassDecl.eq_of_outline_eq {one other : ClassDecl} (same : one.outline = other.outline) : one = other := by
  cases one with
  | mk line name body =>
      cases other with
      | mk =>
          simp [outline] at same
          obtain ⟨rfl, rfl, shown⟩ := same
          rw [items_inj (fun _ _ _ => Member.eq_of_outline_eq) shown]

theorem Program.tagged (program : Program) : program.outline.Throughout Tagged := by
  have classes := tagged_list fun decl (_ : decl ∈ program.classes) => decl.tagged
  exact tagged_node (by simp) (List.forall_mem_singleton.mpr classes)

theorem Program.eq_of_outline_eq {one other : Program} (same : one.outline = other.outline) : one = other := by
  cases one with
  | mk classes =>
      cases other with
      | mk =>
          simp [outline] at same
          rw [items_inj (fun _ _ _ => ClassDecl.eq_of_outline_eq) same]

/-- A node of a syntax tree. The declaration of a field, and the first clause of a `for` statement, is a statement as a
node; a name that is called or updated is an expression. -/
inductive Node
  | program (root : Program)
  | class_ (decl : ClassDecl)
  | method (declaration : Method)
  | param (declaration : Param)
  | statement (part : Stmt)
  | expression (part : Expr)

inductive NodeSort
  | program | class_ | method | param | statement | expression

namespace Node

def outline : Node → Outline
  | program root => root.outline
  | class_ decl => decl.outline
  | method declaration => declaration.outline
  | param declaration => declaration.outline
  | statement part => part.outline
  | expression part => part.outline

def sort : Node → NodeSort
  | program _ => .program
  | class_ _ => .class_
  | method _ => .method
  | param _ => .param
  | statement _ => .statement
  | expression _ => .expression

/-- The sort of the nodes of a kind. -/
def sortOf : String → NodeSort
  | "Program" => .program
  | "ClassDeclaration" => .class_
  | "MethodDeclaration" => .method
  | "Param" => .param
  | "VariableDeclaration" | "ExpressionStatement" | "BlockStatement" | "IfStatement" | "WhileStatement"
  | "DoWhileStatement" | "ForStatement" | "ReturnStatement" | "BreakStatement" | "ContinueStatement" => .statement
  | _ => .expression

theorem sort_outline (node : Node) : node.outline.kind?.map sortOf = some node.sort := by
  cases node with
  | program | class_ | method | param => rfl
  | statement part => cases part <;> rfl
  | expression part =>
      cases part with
      | update line form operator nameLine name => cases form <;> rfl
      | _ => rfl

theorem tagged (node : Node) : node.outline.Throughout Tagged := by
  cases node with
  | program root => exact root.tagged
  | class_ decl => exact decl.tagged
  | method declaration => exact declaration.tagged
  | param declaration => exact declaration.tagged
  | statement part => exact part.tagged
  | expression part => exact part.tagged

theorem eq_of_outline_eq {one other : Node} (same : one.outline = other.outline) : one = other := by
  have sorts : one.sort = other.sort := by
    rw [← Option.some.injEq, ← one.sort_outline, same, other.sort_outline]
  cases one with
  | program one =>
      cases other with
      | program => exact congrArg program (Program.eq_of_outline_eq same)
      | _ => cases sorts
  | class_ one =>
      cases other with
      | class_ => exact congrArg class_ (ClassDecl.eq_of_outline_eq same)
      | _ => cases sorts
  | method one =>
      cases other with
      | method => exact congrArg method (Method.eq_of_outline_eq same)
      | _ => cases sorts
  | param one =>
      cases other with
      | param => exact congrArg param (Param.eq_of_outline_eq same)
      | _ => cases sorts
  | statement one =>
      cases other with
      | statement => exact congrArg statement (one.eq_of_outline_eq _ same)
      | _ => cases sorts
  | expression one =>
      cases other with
      | expression => exact congrArg expression (one.eq_of_outline_eq _ same)
      | _ => cases sorts

/-- Where nothing of a tree lies too deep, what is shown of it has no marker, and is shown of no other tree. What is
shown down to a smaller depth is what is shown down to a larger one, with everything below replaced by the marker. -/
theorem shown_faithfully (node : Node) :
    (∀ depth : Int, (∀ level : Nat, node.outline.HasAt level → (level : Int) ≤ depth) →
      ¬(node.outline.upTo depth).Contains marker ∧
        ∀ other : Node, other.outline.upTo depth = node.outline.upTo depth → other = node) ∧
    ∀ depth deeper : Int, depth ≤ deeper →
      (node.outline.upTo deeper).markedAt (depth + 1).toNat = node.outline.upTo depth := by
  refine ⟨fun depth reaches => ?_, fun depth deeper order => ?_⟩
  · have within : node.outline.Within (depth + 1).toNat := by
      intro level present
      have bound := reaches level present
      omega
    rw [upTo_eq_levels]
    refine ⟨not_contains_marker node.tagged within, fun other same => ?_⟩
    rw [upTo_eq_levels] at same
    exact eq_of_outline_eq (eq_of_levels_eq node.tagged other.tagged within same.symm).symm
  · rw [upTo_eq_levels, upTo_eq_levels]
    exact markedAt_levels node.tagged (by omega)

theorem shown_faithfully_negation :
    let node := expression (.unary 2 "!" (.name 2 "done"))
    (∀ level : Nat, node.outline.HasAt level → (level : Int) ≤ 2) ∧
      (¬(node.outline.upTo 2).Contains marker ∧
        ∀ other : Node, other.outline.upTo 2 = node.outline.upTo 2 → other = node) ∧
      (node.outline.upTo 64).markedAt 2 = node.outline.upTo 1 := by
  intro node
  have within : node.outline.Within 3 := by
    simp [node, outline, Expr.outline, nameNode, Outline.node, nat, text, within_record_iff, within_leaf]
  have reaches : ∀ level : Nat, node.outline.HasAt level → (level : Int) ≤ 2 := by
    intro level present
    have bound := within level present
    omega
  exact ⟨reaches, (shown_faithfully node).1 2 reaches, (shown_faithfully node).2 1 64 (by decide)⟩

end Node

end Stepwise
