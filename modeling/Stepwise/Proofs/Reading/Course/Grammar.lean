import Stepwise.Proofs.Reading.Course

/-!
# The way through a program

Every reader of the grammar goes forward and is bound to what is in sight. A reader that takes its bound from the number
of tokens behind the cursor does so whatever the number, since the bound is never too small.
-/

namespace Stepwise

set_option autoImplicit false

namespace Reader

structure LocalExpressions (fuel more : Nat) : Prop where
  assignment : Local (assignment fuel) (assignment more)
  conditional : Local (conditional fuel) (conditional more)
  operation : ∀ level, Local (operation fuel level) (operation more level)
  operationRest : ∀ level left, Local (operationRest fuel level left) (operationRest more level left)
  unary : Local (unary fuel) (unary more)
  accesses : ∀ head, Local (accesses fuel head) (accesses more head)
  expressions : Local (expressions fuel) (expressions more)
  arrayValues : Local (arrayValues fuel) (arrayValues more)
  arrayLiteral : Local (arrayLiteral fuel) (arrayLiteral more)
  creation : Local (creation fuel) (creation more)
  primary : Local (primary fuel) (primary more)

variable {fuel more : Nat}

theorem local_assignment (reads : LocalExpressions fuel more) :
    Local (assignment (fuel + 1)) (assignment (more + 1)) := by
  rw [assignment, assignment]
  refine reads.conditional.bind fun left => ?_
  refine local_current.bind fun operator => ?_
  refine .branch ?_ (.branch ?_ (.pure left))
  · refine local_advance.bind fun _ => ?_
    refine (local_requireTarget left operator).bind fun _ => ?_
    exact reads.assignment.bind fun value => .pure _
  · refine local_advance.bind fun _ => ?_
    refine (local_requireTarget left operator).bind fun _ => ?_
    exact reads.assignment.bind fun value => .pure _

theorem local_conditional (reads : LocalExpressions fuel more) :
    Local (conditional (fuel + 1)) (conditional (more + 1)) := by
  rw [conditional, conditional]
  refine (reads.operation _).bind fun test => ?_
  refine (local_symbol _).bind fun found => ?_
  refine .branch ?_ (.pure test)
  refine reads.assignment.bind fun consequent => ?_
  refine (local_expect _).bind fun _ => ?_
  exact reads.conditional.bind fun alternate => .pure _

theorem local_operand (reads : LocalExpressions fuel more) (level : Level) {next follow : Expr → Reader Expr}
    (others : ∀ operand, Local (next operand) (follow operand)) :
    Local
      (match level.tighter with
        | some tighter => operation fuel tighter >>= next
        | none => unary fuel >>= next)
      (match level.tighter with
        | some tighter => operation more tighter >>= follow
        | none => unary more >>= follow) := by
  cases level.tighter with
  | some tighter => exact (reads.operation tighter).bind others
  | none => exact reads.unary.bind others

theorem local_operation (reads : LocalExpressions fuel more) (level : Level) :
    Local (operation (fuel + 1) level) (operation (more + 1) level) := by
  rw [operation, operation]
  exact local_operand reads level fun left => reads.operationRest level left

theorem local_operationRest (reads : LocalExpressions fuel more) (level : Level) (left : Expr) :
    Local (operationRest (fuel + 1) level left) (operationRest (more + 1) level left) := by
  rw [operationRest, operationRest]
  refine local_current.bind fun operator => ?_
  refine .branch ?_ (.pure left)
  refine local_advance.bind fun _ => ?_
  exact local_operand reads level fun right => reads.operationRest level _

theorem local_unary (reads : LocalExpressions fuel more) : Local (unary (fuel + 1)) (unary (more + 1)) := by
  rw [unary, unary]
  refine local_current.bind fun operator => ?_
  refine .branch ?_ (.branch ?_ ?_)
  · refine local_advance.bind fun _ => ?_
    exact reads.unary.bind fun argument => .pure _
  · refine local_advance.bind fun _ => ?_
    exact (local_expect _).bind fun name => .pure _
  · exact reads.primary.bind fun head => reads.accesses head

theorem local_accesses (reads : LocalExpressions fuel more) (head : Expr) :
    Local (accesses (fuel + 1) head) (accesses (more + 1) head) := by
  rw [accesses, accesses]
  refine (local_symbol _).bind fun called => ?_
  refine .branch ?_ ?_
  · refine (local_at? _).bind fun empty => ?_
    have closes : ∀ arguments : List Expr, Local
        (expect .argumentsClose >>= fun _ => accesses fuel (.call head.line head arguments))
        (expect .argumentsClose >>= fun _ => accesses more (.call head.line head arguments)) :=
      fun arguments => (local_expect _).bind fun _ => reads.accesses _
    exact .branch (closes []) (reads.expressions.bind closes)
  · refine (local_symbol _).bind fun dotted => ?_
    refine .branch ?_ ?_
    · exact (local_expect _).bind fun name => reads.accesses _
    · refine (local_symbol _).bind fun bracketed => ?_
      refine .branch ?_ (.pure head)
      refine reads.assignment.bind fun position => ?_
      exact (local_expect _).bind fun _ => reads.accesses _

theorem local_expressions (reads : LocalExpressions fuel more) :
    Local (expressions (fuel + 1)) (expressions (more + 1)) := by
  rw [expressions, expressions]
  refine reads.assignment.bind fun first => ?_
  refine (local_symbol _).bind fun found => ?_
  exact .branch (reads.expressions.bind fun others => .pure _) (.pure _)

theorem local_arrayValues (reads : LocalExpressions fuel more) :
    Local (arrayValues (fuel + 1)) (arrayValues (more + 1)) := by
  rw [arrayValues, arrayValues]
  refine reads.assignment.bind fun first => ?_
  refine (local_symbol _).bind fun found => ?_
  refine .branch ?_ (.pure _)
  refine (local_at? _).bind fun closed => ?_
  exact .branch (.pure _) (reads.arrayValues.bind fun others => .pure _)

theorem local_arrayLiteral (reads : LocalExpressions fuel more) :
    Local (arrayLiteral (fuel + 1)) (arrayLiteral (more + 1)) := by
  rw [arrayLiteral, arrayLiteral]
  refine local_advance.bind fun brace => ?_
  refine (local_at? _).bind fun empty => ?_
  have closes : ∀ values : List Expr, Local
      (expect .arrayClose >>= fun _ => Pure.pure (brace.line, values))
      (expect .arrayClose >>= fun _ => Pure.pure (brace.line, values)) :=
    fun values => (local_expect _).bind fun _ => .pure _
  exact .branch (closes []) (reads.arrayValues.bind closes)

theorem local_creation (reads : LocalExpressions fuel more) :
    Local (creation (fuel + 1)) (creation (more + 1)) := by
  rw [creation, creation]
  refine local_advance.bind fun start => ?_
  refine local_current.bind fun type => ?_
  refine .guarded ?_
  refine local_advance.bind fun _ => ?_
  refine (local_symbol _).bind fun called => ?_
  refine .branch ?_ ?_
  · refine .guarded ?_
    refine local_current.bind fun close => ?_
    refine .guarded ?_
    exact local_advance.bind fun _ => .pure _
  · refine (local_symbol _).bind fun bracketed => ?_
    refine .branch ?_ local_complain
    refine (local_symbol _).bind fun empty => ?_
    refine .branch ?_ ?_
    · refine local_current.bind fun brace => ?_
      refine .guarded ?_
      exact reads.arrayLiteral.bind fun read => .pure _
    · refine reads.assignment.bind fun size => ?_
      exact (local_expect _).bind fun _ => .pure _

theorem local_primary (reads : LocalExpressions fuel more) : Local (primary (fuel + 1)) (primary (more + 1)) := by
  rw [primary, primary]
  refine local_current.bind fun token => ?_
  -- Most primary expressions are one token.
  have single : ∀ {result : Expr}, Local (advance >>= fun _ => Pure.pure result) (advance >>= fun _ => Pure.pure result) :=
    local_advance.bind fun _ => .pure _
  split
  · refine local_advance.bind fun _ => ?_
    refine local_current.bind fun operator => ?_
    exact .branch single (.pure _)
  · exact single
  · exact local_advance.bind fun _ => (local_literal _).bind fun value => .pure _
  · exact local_advance.bind fun _ => (local_literal _).bind fun value => .pure _
  · exact local_advance.bind fun _ => (local_literal _).bind fun value => .pure _
  · exact single
  · exact single
  · exact single
  · exact single
  · exact single
  · exact reads.creation
  · exact reads.arrayLiteral.bind fun read => .pure _
  · refine local_advance.bind fun _ => ?_
    refine reads.assignment.bind fun inner => ?_
    exact (local_expect _).bind fun _ => .pure _
  · exact .branch local_complain local_complain

theorem localExpressions {fuel more : Nat} (le : fuel ≤ more) : LocalExpressions fuel more := by
  -- The readers call each other with a smaller bound, so that all of them are treated at once.
  induction fuel generalizing more with
  | zero =>
      constructor
      all_goals
        intros
        exact .exhausted
  | succ fuel hypothesis =>
      obtain ⟨more, rfl⟩ := Nat.exists_eq_add_of_lt le
      have reads : LocalExpressions fuel (fuel + more) := hypothesis (Nat.le_add_right fuel more)
      exact
        { assignment := local_assignment reads
          conditional := local_conditional reads
          operation := local_operation reads
          operationRest := local_operationRest reads
          unary := local_unary reads
          accesses := local_accesses reads
          expressions := local_expressions reads
          arrayValues := local_arrayValues reads
          arrayLiteral := local_arrayLiteral reads
          creation := local_creation reads
          primary := local_primary reads }

theorem not_exhausted {α : Type} {limit : Nat} {reader : Reader α} {cursor : Cursor}
    (proceeds : Proceeds (fun _ => True) limit reader cursor) : (reader.run cursor).outcome ≠ .error .exhausted := by
  intro exhausted
  cases proceeds.rejected _ _ (Reading.eq_error exhausted)

theorem local_expression : Local expression expression := by
  refine .bounded (fun le => (localExpressions le).assignment) fun cursor terminated => ?_
  exact not_exhausted ((proceedsExpressions _).assignment cursor terminated.ready (by omega))

theorem local_typeName : Local typeName typeName := by
  refine local_advance.bind fun token => ?_
  refine .look (fun cursor => ?_) fun cursor other alike => ?_
  · refine .branch ?_ (.pure _)
    exact local_advance.bind fun _ => local_advance.bind fun _ => .pure _
  · rw [alike.current, alike 1 (by decide)]

theorem local_declaration : Local declaration declaration := by
  refine local_current.bind fun start => ?_
  refine local_typeName.bind fun type => ?_
  refine (local_expect _).bind fun name => ?_
  have closes : ∀ value : Option Expr, Local
      (expect .declarationEnd >>= fun _ => Pure.pure (Declaration.mk start.line type name.value value false))
      (expect .declarationEnd >>= fun _ => Pure.pure (Declaration.mk start.line type name.value value false)) :=
    fun value => (local_expect _).bind fun _ => .pure _
  refine (local_symbol _).bind fun valued => ?_
  exact .branch (local_expression.map.bind closes) (closes none)

theorem local_evaluation : Local evaluation evaluation :=
  local_expression.bind fun _ => (local_expect _).bind fun _ => .pure _

theorem local_expressionUnless (kind : TokenKind) : Local (expressionUnless kind) (expressionUnless kind) :=
  (local_at? kind).bind fun _ => .branch (.pure none) local_expression.map

theorem local_forInit : Local forInit forInit := by
  refine (local_symbol _).bind fun empty => ?_
  refine .branch (.pure none) ?_
  refine local_shape?.bind fun shape => ?_
  refine .branch ?_ ?_
  · exact local_declaration.bind fun declared => .pure _
  · exact local_evaluation.bind fun read => .pure _

theorem local_condition (before behind : Expectation) : Local (condition before behind) (condition before behind) := by
  refine (local_expect _).bind fun _ => ?_
  refine local_expression.bind fun test => ?_
  exact (local_expect _).bind fun _ => .pure _

structure LocalStatements (fuel more : Nat) : Prop where
  statement : Local (statement fuel) (statement more)
  block : Local (block fuel) (block more)
  statements : Local (statements fuel) (statements more)

theorem local_statement (reads : LocalStatements fuel more) : Local (statement (fuel + 1)) (statement (more + 1)) := by
  rw [statement, statement]
  refine local_current.bind fun token => ?_
  split
  · exact local_complain
  · refine local_advance.bind fun _ => ?_
    refine (local_condition _ _).bind fun test => ?_
    refine reads.statement.bind fun consequent => ?_
    refine (local_keyword _).bind fun found => ?_
    exact .branch (reads.statement.bind fun alternate => .pure _) (.pure _)
  · refine local_advance.bind fun _ => ?_
    refine (local_condition _ _).bind fun test => ?_
    exact reads.statement.bind fun body => .pure _
  · refine local_advance.bind fun _ => ?_
    refine reads.statement.bind fun body => ?_
    refine (local_expect _).bind fun _ => ?_
    refine (local_condition _ _).bind fun test => ?_
    exact (local_expect _).bind fun _ => .pure _
  · refine local_advance.bind fun _ => ?_
    refine (local_expect _).bind fun _ => ?_
    refine local_forInit.bind fun init => ?_
    refine (local_expressionUnless _).bind fun test => ?_
    refine (local_expect _).bind fun _ => ?_
    refine (local_expressionUnless _).bind fun update => ?_
    refine (local_expect _).bind fun _ => ?_
    exact reads.statement.bind fun body => .pure _
  · refine local_advance.bind fun _ => ?_
    refine (local_expressionUnless _).bind fun argument => ?_
    exact (local_expect _).bind fun _ => .pure _
  · refine local_advance.bind fun _ => ?_
    exact (local_expect _).bind fun _ => .pure _
  · refine local_advance.bind fun _ => ?_
    exact (local_expect _).bind fun _ => .pure _
  · exact reads.block.bind fun body => .pure _
  · exact local_advance.bind fun _ => .pure _
  · refine local_advance.bind fun _ => ?_
    refine local_shape?.bind fun shape => ?_
    refine .branch ?_ local_declaration.map
    exact local_current.bind fun found => local_complain.bind fun _ => local_declaration.map
  · refine .guarded ?_
    refine local_shape?.bind fun shape => ?_
    cases shape with
    | none => exact local_evaluation.bind fun read => .pure _
    | some shape =>
        cases shape with
        | method => exact local_complain
        | «variable» => exact local_declaration.map

theorem local_block (reads : LocalStatements fuel more) : Local (block (fuel + 1)) (block (more + 1)) := by
  rw [block, block]
  refine (local_expect _).bind fun _ => ?_
  refine reads.statements.bind fun body => ?_
  exact (local_expect _).bind fun _ => .pure _

theorem local_statements (reads : LocalStatements fuel more) :
    Local (statements (fuel + 1)) (statements (more + 1)) := by
  rw [statements, statements]
  refine local_current.bind fun token => ?_
  refine .branch (.pure []) ?_
  refine reads.statement.bind fun first => ?_
  exact reads.statements.bind fun others => .pure _

theorem localStatements {fuel more : Nat} (le : fuel ≤ more) : LocalStatements fuel more := by
  induction fuel generalizing more with
  | zero => exact ⟨.exhausted, .exhausted, .exhausted⟩
  | succ fuel hypothesis =>
      obtain ⟨more, rfl⟩ := Nat.exists_eq_add_of_lt le
      have reads : LocalStatements fuel (fuel + more) := hypothesis (Nat.le_add_right fuel more)
      exact ⟨local_statement reads, local_block reads, local_statements reads⟩

theorem local_param : Local param param := by
  refine (local_keyword _).bind fun _ => ?_
  refine local_current.bind fun start => ?_
  refine .guarded ?_
  refine local_typeName.bind fun type => ?_
  exact (local_expect _).bind fun _ => .pure _

theorem local_params {fuel more : Nat} (le : fuel ≤ more) : Local (params fuel) (params more) := by
  induction fuel generalizing more with
  | zero => exact .exhausted
  | succ fuel hypothesis =>
      obtain ⟨more, rfl⟩ := Nat.exists_eq_add_of_lt le
      rw [params, params]
      refine local_param.bind fun first => ?_
      refine (local_symbol _).bind fun found => ?_
      exact .branch ((hypothesis (Nat.le_add_right fuel more)).bind fun others => .pure _) (.pure _)

theorem local_method {fuel more : Nat} (le : fuel ≤ more) : Local (method fuel) (method more) := by
  refine local_current.bind fun start => ?_
  refine local_typeName.bind fun type => ?_
  refine (local_expect _).bind fun name => ?_
  refine (local_expect _).bind fun _ => ?_
  refine (local_at? _).bind fun empty => ?_
  have closes : ∀ parameters : List Param, Local
      (expect .parametersClose >>= fun _ => block fuel >>= fun body =>
        Pure.pure (Method.mk start.line type name.value parameters body))
      (expect .parametersClose >>= fun _ => block more >>= fun body =>
        Pure.pure (Method.mk start.line type name.value parameters body)) := by
    intro parameters
    refine (local_expect _).bind fun _ => ?_
    exact (localStatements le).block.bind fun body => .pure _
  exact .branch (closes []) ((local_params le).bind closes)

theorem local_modifiers {fuel more : Nat} (le : fuel ≤ more) : Local (modifiers fuel) (modifiers more) := by
  induction fuel generalizing more with
  | zero => exact .exhausted
  | succ fuel hypothesis =>
      obtain ⟨more, rfl⟩ := Nat.exists_eq_add_of_lt le
      rw [modifiers, modifiers]
      refine local_current.bind fun token => ?_
      refine .branch ?_ (.pure false)
      refine local_advance.bind fun _ => ?_
      exact (hypothesis (Nat.le_add_right fuel more)).bind fun others => .pure _

theorem local_members {fuel more : Nat} (le : fuel ≤ more) : Local (members fuel) (members more) := by
  induction fuel generalizing more with
  | zero => exact .exhausted
  | succ fuel hypothesis =>
      obtain ⟨more, rfl⟩ := Nat.exists_eq_add_of_lt le
      have within : fuel ≤ fuel + more := Nat.le_add_right fuel more
      rw [members, members]
      refine local_current.bind fun token => ?_
      refine .branch (.pure []) ?_
      refine (local_modifiers within).bind fun isStatic => ?_
      refine local_shape?.bind fun shape => ?_
      cases shape with
      | none => exact local_current.bind fun found => local_complain
      | some shape =>
          cases shape with
          | method => exact (local_method within).bind fun first => (hypothesis within).bind fun others => .pure _
          | «variable» => exact local_declaration.bind fun first => (hypothesis within).bind fun others => .pure _

theorem local_classDecl {fuel more : Nat} (le : fuel ≤ more) : Local (classDecl fuel) (classDecl more) := by
  refine local_advance.bind fun start => ?_
  refine (local_expect _).bind fun name => ?_
  refine (local_expect _).bind fun _ => ?_
  refine (local_members le).bind fun body => ?_
  exact (local_expect _).bind fun _ => .pure _

theorem local_directive (word : String) {fuel more : Nat} (le : fuel ≤ more) :
    Local (directive word fuel) (directive word more) := by
  induction fuel generalizing more with
  | zero => exact .exhausted
  | succ fuel hypothesis =>
      obtain ⟨more, rfl⟩ := Nat.exists_eq_add_of_lt le
      rw [directive, directive]
      refine local_current.bind fun token => ?_
      refine .branch (local_advance.bind fun _ => .pure ()) ?_
      refine .branch local_complain ?_
      exact local_advance.bind fun _ => hypothesis (Nat.le_add_right fuel more)

theorem local_classes {fuel more : Nat} (le : fuel ≤ more) : Local (classes fuel) (classes more) := by
  induction fuel generalizing more with
  | zero => exact .exhausted
  | succ fuel hypothesis =>
      obtain ⟨more, rfl⟩ := Nat.exists_eq_add_of_lt le
      have within : fuel ≤ fuel + more := Nat.le_add_right fuel more
      rw [classes, classes]
      refine local_current.bind fun token => ?_
      refine .branch (.pure []) ?_
      refine .branch ?_ ?_
      · refine local_advance.bind fun _ => ?_
        exact (local_directive _ within).bind fun _ => hypothesis within
      · refine (local_modifiers within).bind fun _ => ?_
        refine local_current.bind fun start => ?_
        refine .guarded ?_
        refine (local_classDecl within).bind fun first => ?_
        exact (hypothesis within).bind fun others => .pure _

theorem local_program : Local program program := by
  have bounded : Local (get >>= fun cursor => classes (4 * cursor.rest.length + 8)) _ :=
    .bounded local_classes fun cursor terminated =>
      not_exhausted (proceeds_classes _ cursor terminated.ready (by omega))
  exact bounded.bind fun decls => .pure _

end Reader

end Stepwise
