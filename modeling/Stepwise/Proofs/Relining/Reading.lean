import Stepwise.Proofs.Relining
import Stepwise.Proofs.Reading.Step

/-!
# Reading carries lines along

A reader that is begun among tokens on other lines reads the same tree with those other lines in it, or rejects the
input with the same complaint on the other line. It decides by the kinds of tokens, and for a directive by the text of
a name, and copies lines and texts without looking at them.
-/

namespace Stepwise

set_option autoImplicit false

variable {move : Nat → Nat} {α β : Type} {fuel : Nat}

def Cursor.relined (move : Nat → Nat) (cursor : Cursor) : Cursor :=
  { current := cursor.current.relined move, rest := cursor.rest.map (Token.relined move) }

namespace Cursor

variable (cursor : Cursor)

@[simp] theorem current_relined : (cursor.relined move).current = cursor.current.relined move := rfl

@[simp] theorem length_rest_relined : (cursor.relined move).rest.length = cursor.rest.length :=
  List.length_map _

theorem ahead_relined (distance : Nat) : (cursor.relined move).ahead distance = (cursor.ahead distance).relined move := by
  cases distance with
  | zero => rfl
  | succ distance => simp only [ahead, relined, List.getD_eq_getElem?_getD, List.getElem?_map, List.getLastD_map, Option.getD_map]

theorem advanced_relined : (cursor.relined move).advanced = cursor.advanced.relined move := by
  obtain ⟨current, rest⟩ := cursor
  by_cases ended : current.isEnd = true
  · have moved : (current.relined move).isEnd = true := ended
    rw [advanced, advanced, if_pos ended]
    exact if_pos moved
  · have moved : ¬(current.relined move).isEnd = true := ended
    rw [advanced, advanced, if_neg ended]
    refine (if_neg moved).trans ?_
    cases rest <;> rfl

theorem next?_relined : (cursor.relined move).next? = cursor.next?.map (Cursor.relined move) := by
  obtain ⟨current, rest⟩ := cursor
  cases rest <;> rfl

theorem shape?_relined : (cursor.relined move).shape? = cursor.shape? := by
  simp only [shape?, ahead_relined, current_relined, Token.kind_relined]

end Cursor

namespace Reader

abbrev carrier (move : Nat → Nat) : Carrier Reader where
  σ := Cursor
  ε := Rejection
  run reader := reader.run
  run_pure _ _ := rfl
  run_bind first next start := by
    rw [run_bind]
    unfold chained
    cases first.run start <;> rfl
  states := Cursor.relined move
  failures := Rejection.relined move

/-- Begun among tokens on other lines, the second reader does what the first one does. -/
abbrev Follows (move : Nat → Nat) (view : α → α) (first second : Reader α) : Prop :=
  (carrier move).Follows view first second

end Reader

namespace Carrier.Follows

open Reader

variable {view : α → α} {last : β → β} {first second : Reader α}

theorem reject {rejection : Rejection} (kept : rejection.relined move = rejection) :
    Reader.Follows move view (reject rejection) (reject rejection) := by
  intro cursor
  change EStateM.Result.error rejection _ = EStateM.Result.error (rejection.relined move) _
  rw [kept]

theorem exhausted : Reader.Follows move view (Reader.reject .exhausted) (Reader.reject .exhausted) :=
  reject rfl

theorem map {change changeSecond : α → β} (follows : Reader.Follows move view first second)
    (same : ∀ result, last (change result) = changeSecond (view result)) :
    Reader.Follows move last (change <$> first) (changeSecond <$> second) :=
  follows.bind fun result => .pure (same result)

end Carrier.Follows

namespace Reader

theorem follows_get : Follows move (Cursor.relined move) get get :=
  fun _ => rfl

theorem follows_current : Follows move (Token.relined move) current current :=
  fun _ => rfl

theorem follows_at? (kind : TokenKind) : Follows move id (at? kind) (at? kind) :=
  fun _ => rfl

theorem follows_shape? : Follows move id shape? shape? :=
  follows_get.bind fun cursor => .pure cursor.shape?_relined.symm

theorem follows_advance : Follows move (Token.relined move) advance advance := by
  intro cursor
  dsimp only [carrier]
  rw [run_advance, run_advance, Cursor.advanced_relined]
  rfl

theorem follows_step : Follows move id step step := by
  refine follows_get.bind fun cursor => ?_
  rw [cursor.next?_relined]
  cases cursor.next? with
  | none => exact .reject rfl
  | some next => exact fun _ => rfl

theorem follows_accept (kind : TokenKind) : Follows move id (accept kind) (accept kind) := by
  refine (follows_at? kind).bind fun found => ?_
  cases found with
  | false => exact .pure rfl
  | true => exact follows_step.bind fun _ => .pure rfl

theorem follows_complain {view : α → α} {complaint : Complaint} {token : Token} :
    Follows move view (complain complaint token) (complain complaint (token.relined move)) :=
  fun _ => rfl

theorem follows_complain_bind {view : β → β} {complaint : Complaint} {token : Token} {next nextSecond : α → Reader β} :
    Follows move view (complain complaint token >>= next) (complain complaint (token.relined move) >>= nextSecond) :=
  fun _ => rfl

theorem follows_expect (place : Expectation) : Follows move (Token.relined move) (expect place) (expect place) := by
  refine follows_current.bind fun token => ?_
  exact .branch follows_advance follows_complain

theorem follows_literal {value : Except Fault α} : Follows move id (literal value) (literal value) := by
  cases value with
  | ok value => exact .pure rfl
  | error fault => exact .reject rfl

theorem follows_unless {condition : Prop} {decide decideSecond : Decidable condition} {view : α → α}
    {complaint : Complaint} {token : Token} {next nextSecond : Unit → Reader α}
    (others : Follows move view (next ()) (nextSecond ())) :
    Follows move view (@ite _ condition decide (complain complaint token >>= next) (next ()))
      (@ite _ condition decideSecond (complain complaint (token.relined move) >>= nextSecond) (nextSecond ())) :=
  .branch follows_complain_bind others

theorem follows_requireTarget (target : Expr) (operator : Token) :
    Follows move id (requireTarget target operator)
      (requireTarget (target.relined move) (operator.relined move)) := by
  unfold requireTarget
  rw [Expr.isTarget_relined]
  split
  · exact .pure rfl
  · exact follows_complain

structure FollowsExpressions (move : Nat → Nat) (fuel : Nat) : Prop where
  assignment : Follows move (Expr.relined move) (assignment fuel) (assignment fuel)
  conditional : Follows move (Expr.relined move) (conditional fuel) (conditional fuel)
  operation : ∀ level, Follows move (Expr.relined move) (operation fuel level) (operation fuel level)
  operationRest : ∀ level left,
    Follows move (Expr.relined move) (operationRest fuel level left) (operationRest fuel level (left.relined move))
  unary : Follows move (Expr.relined move) (unary fuel) (unary fuel)
  accesses : ∀ head, Follows move (Expr.relined move) (accesses fuel head) (accesses fuel (head.relined move))
  expressions : Follows move (List.map (Expr.relined move)) (expressions fuel) (expressions fuel)
  arrayValues : Follows move (List.map (Expr.relined move)) (arrayValues fuel) (arrayValues fuel)
  arrayLiteral : Follows move (Prod.map move (List.map (Expr.relined move))) (arrayLiteral fuel) (arrayLiteral fuel)
  creation : Follows move (Expr.relined move) (creation fuel) (creation fuel)
  primary : Follows move (Expr.relined move) (primary fuel) (primary fuel)

theorem followsExpressions_zero : FollowsExpressions move 0 where
  assignment := .exhausted
  conditional := .exhausted
  operation _ := .exhausted
  operationRest _ _ := .exhausted
  unary := .exhausted
  accesses _ := .exhausted
  expressions := .exhausted
  arrayValues := .exhausted
  arrayLiteral := .exhausted
  creation := .exhausted
  primary := .exhausted

theorem follows_assignment (reads : FollowsExpressions move fuel) :
    Follows move (Expr.relined move) (assignment (fuel + 1)) (assignment (fuel + 1)) := by
  rw [assignment]
  refine reads.conditional.bind fun left => ?_
  refine follows_current.bind fun operator => ?_
  dsimp only [Token.kind_relined, Token.value_relined]
  refine .branch ?_ ?_
  · refine follows_advance.bind fun _ => ?_
    refine (follows_requireTarget left operator).bind fun _ => ?_
    exact reads.assignment.bind fun value => .pure (by simp only [Expr.relined, Expr.line_relined])
  · refine .branch ?_ ?_
    · refine follows_advance.bind fun _ => ?_
      refine (follows_requireTarget left operator).bind fun _ => ?_
      exact reads.assignment.bind fun value => .pure (by simp only [Expr.relined, Expr.line_relined])
    · exact .pure rfl

theorem follows_conditional (reads : FollowsExpressions move fuel) :
    Follows move (Expr.relined move) (conditional (fuel + 1)) (conditional (fuel + 1)) := by
  rw [conditional]
  refine (reads.operation _).bind fun test => ?_
  refine (follows_accept _).bind fun found => ?_
  cases found with
  | false => exact .pure rfl
  | true =>
      refine reads.assignment.bind fun consequent => ?_
      refine (follows_expect _).bind fun _ => ?_
      exact reads.conditional.bind fun alternate => .pure (by simp only [Expr.relined, Expr.line_relined])

theorem follows_operand (reads : FollowsExpressions move fuel) (level : Level) {next nextSecond : Expr → Reader Expr}
    (others : ∀ operand, Follows move (Expr.relined move) (next operand) (nextSecond (operand.relined move))) :
    Follows move (Expr.relined move)
      (match level.tighter with
        | some tighter => operation fuel tighter >>= next
        | none => unary fuel >>= next)
      (match level.tighter with
        | some tighter => operation fuel tighter >>= nextSecond
        | none => unary fuel >>= nextSecond) := by
  cases level.tighter with
  | some tighter => exact (reads.operation tighter).bind others
  | none => exact reads.unary.bind others

theorem follows_operation (reads : FollowsExpressions move fuel) (level : Level) :
    Follows move (Expr.relined move) (operation (fuel + 1) level) (operation (fuel + 1) level) := by
  rw [operation]
  exact follows_operand reads level fun left => reads.operationRest level left

theorem follows_operationRest (reads : FollowsExpressions move fuel) (level : Level) (left : Expr) :
    Follows move (Expr.relined move) (operationRest (fuel + 1) level left)
      (operationRest (fuel + 1) level (left.relined move)) := by
  rw [operationRest, operationRest]
  refine follows_current.bind fun operator => ?_
  dsimp only [Token.kind_relined, Token.value_relined]
  refine .branch ?_ ?_
  · refine follows_advance.bind fun _ => ?_
    refine follows_operand reads level fun right => ?_
    rw [← Expr.relined_node]
    exact reads.operationRest level _
  · exact .pure rfl

theorem follows_unary (reads : FollowsExpressions move fuel) :
    Follows move (Expr.relined move) (unary (fuel + 1)) (unary (fuel + 1)) := by
  rw [unary]
  refine follows_current.bind fun operator => ?_
  dsimp only [Token.kind_relined, Token.value_relined, Token.line_relined]
  refine .branch ?_ ?_
  · refine follows_advance.bind fun _ => ?_
    exact reads.unary.bind fun argument => .pure (by rw [Expr.relined])
  · refine .branch ?_ ?_
    · refine follows_advance.bind fun _ => ?_
      exact (follows_expect _).bind fun name => .pure (by rw [Expr.relined]; rfl)
    · exact reads.primary.bind fun head => reads.accesses head

theorem follows_accesses (reads : FollowsExpressions move fuel) (head : Expr) :
    Follows move (Expr.relined move) (accesses (fuel + 1) head) (accesses (fuel + 1) (head.relined move)) := by
  rw [accesses, accesses]
  refine (follows_accept _).bind fun called => ?_
  cases called with
  | true =>
      have closes : ∀ arguments : List Expr, Follows move (Expr.relined move)
          (expect .argumentsClose >>= fun _ => accesses fuel (.call head.line head arguments))
          (expect .argumentsClose >>= fun _ =>
            accesses fuel (.call (head.relined move).line (head.relined move) (arguments.map (Expr.relined move)))) := by
        intro arguments
        refine (follows_expect _).bind fun _ => ?_
        rw [Expr.line_relined, ← Expr.relinedAll_eq_map, ← Expr.relined]
        exact reads.accesses _
      refine (follows_at? _).bind fun empty => ?_
      cases empty with
      | true => exact closes []
      | false => exact reads.expressions.bind closes
  | false =>
      refine (follows_accept _).bind fun dotted => ?_
      cases dotted with
      | true =>
          refine (follows_expect _).bind fun name => ?_
          rw [Expr.line_relined, Token.line_relined, Token.value_relined, ← Expr.relined]
          exact reads.accesses _
      | false =>
          refine (follows_accept _).bind fun bracketed => ?_
          cases bracketed with
          | true =>
              refine reads.assignment.bind fun position => ?_
              refine (follows_expect _).bind fun _ => ?_
              rw [Expr.line_relined, ← Expr.relined]
              exact reads.accesses _
          | false => exact .pure rfl

theorem follows_expressions (reads : FollowsExpressions move fuel) :
    Follows move (List.map (Expr.relined move)) (expressions (fuel + 1)) (expressions (fuel + 1)) := by
  rw [expressions]
  refine reads.assignment.bind fun first => ?_
  refine (follows_accept _).bind fun more => ?_
  cases more with
  | true => exact reads.expressions.bind fun others => .pure List.map_cons
  | false => exact .pure List.map_singleton

theorem follows_arrayValues (reads : FollowsExpressions move fuel) :
    Follows move (List.map (Expr.relined move)) (arrayValues (fuel + 1)) (arrayValues (fuel + 1)) := by
  rw [arrayValues]
  refine reads.assignment.bind fun first => ?_
  refine (follows_accept _).bind fun more => ?_
  cases more with
  | true =>
      refine (follows_at? _).bind fun closed => ?_
      cases closed with
      | true => exact .pure List.map_singleton
      | false => exact reads.arrayValues.bind fun others => .pure List.map_cons
  | false => exact .pure List.map_singleton

theorem follows_arrayLiteral (reads : FollowsExpressions move fuel) :
    Follows move (Prod.map move (List.map (Expr.relined move))) (arrayLiteral (fuel + 1))
      (arrayLiteral (fuel + 1)) := by
  rw [arrayLiteral]
  refine follows_advance.bind fun brace => ?_
  have closes : ∀ values : List Expr, Follows move (Prod.map move (List.map (Expr.relined move)))
      (expect .arrayClose >>= fun _ => Pure.pure (brace.line, values))
      (expect .arrayClose >>= fun _ => Pure.pure ((brace.relined move).line, values.map (Expr.relined move))) :=
    fun values => (follows_expect _).bind fun _ => .pure rfl
  refine (follows_at? _).bind fun empty => ?_
  cases empty with
  | true => exact closes []
  | false => exact reads.arrayValues.bind closes

theorem follows_creation (reads : FollowsExpressions move fuel) :
    Follows move (Expr.relined move) (creation (fuel + 1)) (creation (fuel + 1)) := by
  rw [creation]
  refine follows_advance.bind fun start => ?_
  refine follows_current.bind fun type => ?_
  dsimp only [Token.kind_relined, Token.value_relined, Token.line_relined]
  refine follows_unless ?_
  refine follows_advance.bind fun _ => ?_
  refine (follows_accept _).bind fun called => ?_
  refine .branch ?_ ?_
  · refine follows_unless ?_
    refine follows_current.bind fun close => ?_
    refine follows_unless ?_
    exact follows_advance.bind fun _ => .pure (by rw [Expr.relined])
  · refine (follows_accept _).bind fun bracketed => ?_
    refine .branch ?_ follows_complain
    refine (follows_accept _).bind fun empty => ?_
    refine .branch ?_ ?_
    · refine follows_current.bind fun brace => ?_
      refine follows_unless ?_
      exact reads.arrayLiteral.bind fun read => .pure (by rw [Expr.relined, Expr.relinedAll_eq_map]; rfl)
    · refine reads.assignment.bind fun size => ?_
      exact (follows_expect _).bind fun _ => .pure (by rw [Expr.relined])

theorem follows_primary (reads : FollowsExpressions move fuel) :
    Follows move (Expr.relined move) (primary (fuel + 1)) (primary (fuel + 1)) := by
  rw [primary]
  refine follows_current.bind fun token => ?_
  dsimp only [Token.kind_relined, Token.value_relined, Token.line_relined]
  split
  · refine follows_advance.bind fun _ => ?_
    refine follows_current.bind fun operator => ?_
    dsimp only [Token.kind_relined, Token.value_relined]
    refine .branch ?_ ?_
    · exact follows_advance.bind fun _ => .pure (by rw [Expr.relined])
    · exact .pure (by rw [Expr.relined])
  · exact follows_advance.bind fun _ => .pure (by rw [Expr.relined])
  · refine follows_advance.bind fun _ => ?_
    exact follows_literal.bind fun value => .pure (by rw [Expr.relined, id])
  · refine follows_advance.bind fun _ => ?_
    exact follows_literal.bind fun value => .pure (by rw [Expr.relined, id])
  · refine follows_advance.bind fun _ => ?_
    exact follows_literal.bind fun value => .pure (by rw [Expr.relined, id])
  · exact follows_advance.bind fun _ => .pure (by rw [Expr.relined])
  · exact follows_advance.bind fun _ => .pure (by rw [Expr.relined])
  · exact follows_advance.bind fun _ => .pure (by rw [Expr.relined])
  · exact follows_advance.bind fun _ => .pure (by rw [Expr.relined])
  · exact follows_advance.bind fun _ => .pure (by rw [Expr.relined])
  · exact reads.creation
  · exact reads.arrayLiteral.bind fun read => .pure (by rw [Expr.relined, Expr.relinedAll_eq_map]; rfl)
  · refine follows_advance.bind fun _ => ?_
    refine reads.assignment.bind fun inner => ?_
    exact (follows_expect _).bind fun _ => .pure rfl
  · split
    · exact follows_complain
    · exact follows_complain

theorem followsExpressions (fuel : Nat) : FollowsExpressions move fuel := by
  -- The readers call each other with a smaller bound, so that all of them are treated at once.
  induction fuel with
  | zero => exact followsExpressions_zero
  | succ fuel reads =>
      exact
        { assignment := follows_assignment reads
          conditional := follows_conditional reads
          operation := follows_operation reads
          operationRest := follows_operationRest reads
          unary := follows_unary reads
          accesses := follows_accesses reads
          expressions := follows_expressions reads
          arrayValues := follows_arrayValues reads
          arrayLiteral := follows_arrayLiteral reads
          creation := follows_creation reads
          primary := follows_primary reads }

theorem follows_expression : Follows move (Expr.relined move) expression expression := by
  refine follows_get.bind fun cursor => ?_
  rw [cursor.length_rest_relined]
  exact (followsExpressions _).assignment

theorem follows_typeName : Follows move id typeName typeName := by
  refine follows_advance.bind fun token => ?_
  refine follows_get.bind fun cursor => ?_
  rw [cursor.ahead_relined]
  refine .branch ?_ (.pure rfl)
  exact follows_advance.bind fun _ => follows_advance.bind fun _ => .pure rfl

theorem follows_someExpression :
    Follows move (Option.map (Expr.relined move)) (some <$> expression) (some <$> expression) :=
  follows_expression.map fun _ => rfl

theorem follows_declaration : Follows move (Declaration.relined move) declaration declaration := by
  refine follows_current.bind fun start => ?_
  refine follows_typeName.bind fun type => ?_
  refine (follows_expect _).bind fun name => ?_
  have closes : ∀ value : Option Expr, Follows move (Declaration.relined move)
      (expect .declarationEnd >>= fun _ =>
        Pure.pure { line := start.line, typeName := type, name := name.value, value, isStatic := false })
      (expect .declarationEnd >>= fun _ =>
        Pure.pure
          { line := move start.line, typeName := type, name := name.value, value := value.map (Expr.relined move),
            isStatic := false }) :=
    fun value => (follows_expect _).bind fun _ => .pure rfl
  refine (follows_accept _).bind fun valued => ?_
  cases valued with
  | true => exact follows_someExpression.bind closes
  | false => exact closes none

theorem follows_evaluation : Follows move (Prod.map move (Expr.relined move)) evaluation evaluation := by
  refine follows_expression.bind fun value => ?_
  exact (follows_expect _).bind fun _ => .pure (by rw [Expr.line_relined]; rfl)

theorem follows_expressionUnless (kind : TokenKind) :
    Follows move (Option.map (Expr.relined move)) (expressionUnless kind) (expressionUnless kind) := by
  refine (follows_at? kind).bind fun found => ?_
  cases found with
  | true => exact .pure rfl
  | false => exact follows_someExpression

theorem follows_forInit : Follows move (Option.map (ForInit.relined move)) forInit forInit := by
  refine (follows_accept _).bind fun empty => ?_
  refine .branch (.pure rfl) ?_
  refine follows_shape?.bind fun shape => ?_
  refine .branch ?_ ?_
  · exact follows_declaration.bind fun declared => .pure rfl
  · exact follows_evaluation.bind fun read => .pure rfl

theorem follows_condition (before behind : Expectation) :
    Follows move (Expr.relined move) (condition before behind) (condition before behind) := by
  refine (follows_expect _).bind fun _ => ?_
  refine follows_expression.bind fun test => ?_
  exact (follows_expect _).bind fun _ => .pure rfl

structure FollowsStatements (move : Nat → Nat) (fuel : Nat) : Prop where
  statement : Follows move (Stmt.relined move) (statement fuel) (statement fuel)
  block : Follows move (List.map (Stmt.relined move)) (block fuel) (block fuel)
  statements : Follows move (List.map (Stmt.relined move)) (statements fuel) (statements fuel)

theorem follows_declareStatement : Follows move (Stmt.relined move) (.declare <$> declaration) (.declare <$> declaration) :=
  follows_declaration.map fun declared => by rw [Stmt.relined]

theorem follows_ordinary {token : Token} :
    Follows move (Stmt.relined move)
      (do
        match ← shape? with
        | some .method => complain .misplacedMethod token
        | some .variable => .declare <$> declaration
        | none =>
            let (line, value) ← evaluation
            return .evaluate line value)
      (do
        match ← shape? with
        | some .method => complain .misplacedMethod (token.relined move)
        | some .variable => .declare <$> declaration
        | none =>
            let (line, value) ← evaluation
            return .evaluate line value) := by
  refine follows_shape?.bind fun shape => ?_
  match shape with
  | some .method => exact follows_complain
  | some .variable => exact follows_declareStatement
  | none => exact follows_evaluation.bind fun read => .pure (by rw [Stmt.relined])

theorem follows_statement (reads : FollowsStatements move fuel) :
    Follows move (Stmt.relined move) (statement (fuel + 1)) (statement (fuel + 1)) := by
  rw [statement]
  refine follows_current.bind fun token => ?_
  dsimp only [Token.kind_relined, Token.value_relined, Token.line_relined]
  split
  · exact follows_complain
  · refine follows_advance.bind fun _ => ?_
    refine (follows_condition _ _).bind fun test => ?_
    refine reads.statement.bind fun consequent => ?_
    refine (follows_accept _).bind fun more => ?_
    cases more with
    | true => exact reads.statement.bind fun alternate => .pure (by rw [Stmt.relined])
    | false => exact .pure (by rw [Stmt.relined])
  · refine follows_advance.bind fun _ => ?_
    refine (follows_condition _ _).bind fun test => ?_
    exact reads.statement.bind fun body => .pure (by rw [Stmt.relined])
  · refine follows_advance.bind fun _ => ?_
    refine reads.statement.bind fun body => ?_
    refine (follows_expect _).bind fun _ => ?_
    refine (follows_condition _ _).bind fun test => ?_
    exact (follows_expect _).bind fun _ => .pure (by rw [Stmt.relined])
  · refine follows_advance.bind fun _ => ?_
    refine (follows_expect _).bind fun _ => ?_
    refine follows_forInit.bind fun init => ?_
    refine (follows_expressionUnless _).bind fun test => ?_
    refine (follows_expect _).bind fun _ => ?_
    refine (follows_expressionUnless _).bind fun update => ?_
    refine (follows_expect _).bind fun _ => ?_
    exact reads.statement.bind fun body => .pure (by rw [Stmt.relined])
  · refine follows_advance.bind fun _ => ?_
    refine (follows_expressionUnless _).bind fun argument => ?_
    exact (follows_expect _).bind fun _ => .pure (by rw [Stmt.relined])
  · refine follows_advance.bind fun _ => ?_
    exact (follows_expect _).bind fun _ => .pure (by rw [Stmt.relined])
  · refine follows_advance.bind fun _ => ?_
    exact (follows_expect _).bind fun _ => .pure (by rw [Stmt.relined])
  · exact reads.block.bind fun body => .pure (by rw [Stmt.relined, Stmt.relinedAll_eq_map])
  · exact follows_advance.bind fun _ => .pure (by rw [Stmt.relined, Stmt.relinedAll_eq_map, List.map_nil])
  · refine follows_advance.bind fun _ => ?_
    refine follows_shape?.bind fun shape => ?_
    refine .branch ?_ follows_declareStatement
    refine follows_current.bind fun found => ?_
    exact follows_complain_bind
  · exact follows_unless follows_ordinary

theorem follows_block (reads : FollowsStatements move fuel) :
    Follows move (List.map (Stmt.relined move)) (block (fuel + 1)) (block (fuel + 1)) := by
  rw [block]
  refine (follows_expect _).bind fun _ => ?_
  refine reads.statements.bind fun body => ?_
  exact (follows_expect _).bind fun _ => .pure rfl

theorem follows_statements (reads : FollowsStatements move fuel) :
    Follows move (List.map (Stmt.relined move)) (statements (fuel + 1)) (statements (fuel + 1)) := by
  rw [statements]
  refine follows_current.bind fun token => ?_
  refine .branch (.pure List.map_nil) ?_
  refine reads.statement.bind fun first => ?_
  exact reads.statements.bind fun others => .pure List.map_cons

theorem followsStatements (fuel : Nat) : FollowsStatements move fuel := by
  induction fuel with
  | zero => exact ⟨.exhausted, .exhausted, .exhausted⟩
  | succ fuel reads => exact ⟨follows_statement reads, follows_block reads, follows_statements reads⟩

theorem follows_param : Follows move (Param.relined move) param param := by
  refine (follows_accept _).bind fun _ => ?_
  refine follows_current.bind fun start => ?_
  refine follows_unless ?_
  refine follows_typeName.bind fun type => ?_
  exact (follows_expect _).bind fun _ => .pure rfl

theorem follows_params (fuel : Nat) : Follows move (List.map (Param.relined move)) (params fuel) (params fuel) := by
  induction fuel with
  | zero => exact .exhausted
  | succ fuel ih =>
      rw [params]
      refine follows_param.bind fun first => ?_
      refine (follows_accept _).bind fun more => ?_
      cases more with
      | true => exact ih.bind fun others => .pure List.map_cons
      | false => exact .pure List.map_singleton

theorem follows_method (fuel : Nat) : Follows move (Method.relined move) (method fuel) (method fuel) := by
  refine follows_current.bind fun start => ?_
  refine follows_typeName.bind fun type => ?_
  refine (follows_expect _).bind fun name => ?_
  refine (follows_expect _).bind fun _ => ?_
  have closes : ∀ parameters : List Param, Follows move (Method.relined move)
      (expect .parametersClose >>= fun _ => block fuel >>= fun body =>
        Pure.pure { line := start.line, returnType := type, name := name.value, params := parameters, body })
      (expect .parametersClose >>= fun _ => block fuel >>= fun body =>
        Pure.pure
          { line := move start.line, returnType := type, name := name.value,
            params := parameters.map (Param.relined move), body }) := by
    intro parameters
    refine (follows_expect _).bind fun _ => ?_
    exact (followsStatements fuel).block.bind fun body => .pure (by rw [Method.relined, Stmt.relinedAll_eq_map])
  refine (follows_at? _).bind fun empty => ?_
  cases empty with
  | true => exact closes []
  | false => exact (follows_params fuel).bind closes

theorem follows_modifiers (fuel : Nat) : Follows move id (modifiers fuel) (modifiers fuel) := by
  induction fuel with
  | zero => exact .exhausted
  | succ fuel ih =>
      rw [modifiers]
      refine follows_current.bind fun token => ?_
      refine .branch ?_ (.pure rfl)
      refine follows_advance.bind fun _ => ?_
      exact ih.bind fun others => .pure rfl

theorem follows_members (fuel : Nat) : Follows move (List.map (Member.relined move)) (members fuel) (members fuel) := by
  induction fuel with
  | zero => exact .exhausted
  | succ fuel ih =>
      rw [members]
      refine follows_current.bind fun token => ?_
      refine .branch (.pure List.map_nil) ?_
      refine (follows_modifiers fuel).bind fun isStatic => ?_
      refine follows_shape?.bind fun shape => ?_
      cases shape with
      | none => exact follows_current.bind fun found => follows_complain
      | some kind =>
          cases kind with
          | method =>
              refine (follows_method fuel).bind fun first => ?_
              exact ih.bind fun others => .pure List.map_cons
          | «variable» =>
              refine follows_declaration.bind fun first => ?_
              exact ih.bind fun others => .pure List.map_cons

theorem follows_classDecl (fuel : Nat) : Follows move (ClassDecl.relined move) (classDecl fuel) (classDecl fuel) := by
  refine follows_advance.bind fun start => ?_
  refine (follows_expect _).bind fun name => ?_
  refine (follows_expect _).bind fun _ => ?_
  refine (follows_members fuel).bind fun body => ?_
  exact (follows_expect _).bind fun _ => .pure rfl

theorem follows_directive (word : String) (fuel : Nat) : Follows move id (directive word fuel) (directive word fuel) := by
  induction fuel with
  | zero => exact .exhausted
  | succ fuel ih =>
      rw [directive]
      refine follows_current.bind fun token => ?_
      refine .branch ?_ ?_
      · exact follows_advance.bind fun _ => .pure rfl
      · refine .branch follows_complain ?_
        exact follows_advance.bind fun _ => ih

theorem follows_classes (fuel : Nat) : Follows move (List.map (ClassDecl.relined move)) (classes fuel) (classes fuel) := by
  induction fuel with
  | zero => exact .exhausted
  | succ fuel ih =>
      rw [classes]
      refine follows_current.bind fun token => ?_
      refine .branch (.pure List.map_nil) ?_
      refine .branch ?_ ?_
      · refine follows_advance.bind fun _ => ?_
        exact (follows_directive _ fuel).bind fun _ => ih
      · refine (follows_modifiers fuel).bind fun _ => ?_
        refine follows_current.bind fun start => ?_
        refine follows_unless ?_
        refine (follows_classDecl fuel).bind fun first => ?_
        exact ih.bind fun others => .pure List.map_cons

theorem follows_program : Follows move (Program.relined move) program program := by
  refine follows_get.bind fun cursor => ?_
  rw [cursor.length_rest_relined]
  exact (follows_classes _).bind fun decls => .pure rfl

end Reader

/-- What a list of tokens is read as does not depend on their lines, but for the lines in it. -/
theorem Program.ofTokens_relined (move : Nat → Nat) (tokens : List Token) :
    ofTokens (tokens.map (Token.relined move)) =
      match ofTokens tokens with
      | .ok program => .ok (program.relined move)
      | .error rejection => .error (rejection.relined move) := by
  cases tokens with
  | nil => rfl
  | cons first rest =>
      have last : (rest.map (Token.relined move)).getLastD (first.relined move) = (rest.getLastD first).relined move := by
        rw [List.getLastD_map]
      by_cases terminated : (rest.getLastD first).isEnd = true
      · have moved : ((rest.map (Token.relined move)).getLastD (first.relined move)).isEnd = true := by
          rw [last]
          exact terminated
        have follows : Reader.Follows move (Program.relined move) Reader.program Reader.program := Reader.follows_program
        have read := follows { current := first, rest }
        rw [List.map_cons, ofTokens_cons terminated, ofTokens_cons moved]
        have start : ({ current := first.relined move, rest := rest.map (Token.relined move) } : Cursor) =
            Cursor.relined move { current := first, rest } := rfl
        dsimp only [Reader.carrier] at read
        rw [start, read]
        cases Reader.program.run { current := first, rest } with
        | ok program after => rfl
        | error rejection after => rfl
      · have moved : ¬((rest.map (Token.relined move)).getLastD (first.relined move)).isEnd = true := by
          rw [last]
          exact terminated
        rw [List.map_cons, ofTokens, start?, if_neg moved, ofTokens, start?, if_neg terminated]
        rfl

end Stepwise
