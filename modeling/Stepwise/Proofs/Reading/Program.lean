import Stepwise.Proofs.Reading
import Stepwise.Proofs.Tree
import Stepwise.Source

/-!
# What reading a program yields

Declarations, statements, members and classes are put together from tokens of the input as expressions are. So every
expression of a program that was compiled, down to the smallest part, was read from the tokens of its source.
-/

namespace Stepwise

set_option autoImplicit false

variable {available : Token → Prop}

structure Declaration.ReadFrom (available : Token → Prop) (declaration : Declaration) : Prop where
  start : ∃ token, available token ∧ declaration.line = token.line
  name : ∃ token, available token ∧ token.kind = .identifier ∧ declaration.name = token.value
  value : ∀ expression, declaration.value = some expression → expression.ReadFrom available

inductive ForInit.ReadFrom (available : Token → Prop) : ForInit → Prop
  | declare {declaration : Declaration} (read : declaration.ReadFrom available) :
      ReadFrom available (.declare declaration)
  | evaluate {expression : Expr} (read : expression.ReadFrom available) :
      ReadFrom available (.evaluate expression.line expression)

/-- How a statement can come about from available tokens. -/
inductive Stmt.ReadFrom (available : Token → Prop) : Stmt → Prop
  | declare {declaration : Declaration} (read : declaration.ReadFrom available) :
      ReadFrom available (.declare declaration)
  | evaluate {expression : Expr} (read : expression.ReadFrom available) :
      ReadFrom available (.evaluate expression.line expression)
  | block {token : Token} {body : List Stmt} (given : available token)
      (inner : ∀ statement ∈ body, ReadFrom available statement) : ReadFrom available (.block token.line body)
  | ifThen {token : Token} {test : Expr} {consequent : Stmt} (given : available token)
      (condition : test.ReadFrom available) (first : ReadFrom available consequent) :
      ReadFrom available (.ifThen token.line test consequent)
  | ifElse {token : Token} {test : Expr} {consequent alternate : Stmt} (given : available token)
      (condition : test.ReadFrom available) (first : ReadFrom available consequent)
      (second : ReadFrom available alternate) : ReadFrom available (.ifElse token.line test consequent alternate)
  | while_ {token : Token} {test : Expr} {body : Stmt} (given : available token)
      (condition : test.ReadFrom available) (inner : ReadFrom available body) :
      ReadFrom available (.while_ token.line test body)
  | doWhile {token : Token} {test : Expr} {body : Stmt} (given : available token)
      (condition : test.ReadFrom available) (inner : ReadFrom available body) :
      ReadFrom available (.doWhile token.line test body)
  | for_ {token : Token} {init : Option ForInit} {test update : Option Expr} {body : Stmt} (given : available token)
      (first : ∀ clause, init = some clause → clause.ReadFrom available)
      (condition : ∀ expression, test = some expression → expression.ReadFrom available)
      (last : ∀ expression, update = some expression → expression.ReadFrom available)
      (inner : ReadFrom available body) : ReadFrom available (.for_ token.line init test update body)
  | return_ {token : Token} {argument : Option Expr} (given : available token)
      (value : ∀ expression, argument = some expression → expression.ReadFrom available) :
      ReadFrom available (.return_ token.line argument)
  | break_ {token : Token} (given : available token) : ReadFrom available (.break_ token.line)
  | continue_ {token : Token} (given : available token) : ReadFrom available (.continue_ token.line)

structure Method.ReadFrom (available : Token → Prop) (method : Method) : Prop where
  start : ∃ token, available token ∧ method.line = token.line
  name : ∃ token, available token ∧ token.kind = .identifier ∧ method.name = token.value
  body : ∀ statement ∈ method.body, statement.ReadFrom available

inductive Member.ReadFrom (available : Token → Prop) : Member → Prop
  | method {declaration : Method} (read : declaration.ReadFrom available) : ReadFrom available (.method declaration)
  | field {declaration : Declaration} (read : declaration.ReadFrom available) :
      ReadFrom available (.field declaration)

structure ClassDecl.ReadFrom (available : Token → Prop) (decl : ClassDecl) : Prop where
  start : ∃ token, available token ∧ decl.line = token.line
  name : ∃ token, available token ∧ token.kind = .identifier ∧ decl.name = token.value
  body : ∀ member ∈ decl.body, member.ReadFrom available

namespace Reader

theorem yields_typeName : Yields available typeName fun _ => True := by
  refine yields_advance.bind fun token _ => ?_
  refine yields_get.bind fun cursor _ => ?_
  split
  · exact yields_advance.bind fun _ _ => yields_advance.bind fun _ _ => .pure trivial
  · exact .pure trivial

theorem yields_map {α β : Type} {reader : Reader α} {change : α → β} {told : α → Prop} {mapped : β → Prop}
    (yields : Yields available reader told) (keeps : ∀ result, told result → mapped (change result)) :
    Yields available (change <$> reader) mapped :=
  yields.bind fun result held => .pure (keeps result held)

theorem yields_someExpression : Yields available (some <$> expression) fun read =>
    ∀ expression, read = some expression → expression.ReadFrom available := by
  refine yields_map yields_expression fun result held => ?_
  intro expression same
  cases same
  exact held

theorem yields_declaration : Yields available declaration (Declaration.ReadFrom available) := by
  refine yields_current.bind fun start given => ?_
  refine yields_typeName.bind fun type _ => ?_
  refine (yields_expect _).bind fun name named => ?_
  refine (yields_accept _).bind fun valued _ => ?_
  extract_lets finish
  have closes : ∀ value, (∀ expression, value = some expression → Expr.ReadFrom available expression) →
      Yields available (finish value) (Declaration.ReadFrom available) := by
    intro value read
    exact (yields_expect _).bind fun _ _ => .pure ⟨⟨start, given, rfl⟩, ⟨name, named.1, named.2, rfl⟩, read⟩
  split
  · exact yields_someExpression.bind closes
  · exact (Yields.pure nofun).bind closes

theorem yields_evaluation : Yields available evaluation fun read =>
    read.1 = read.2.line ∧ read.2.ReadFrom available := by
  refine yields_expression.bind fun value read => ?_
  exact (yields_expect _).bind fun _ _ => .pure ⟨rfl, read⟩

theorem yields_expressionUnless (kind : TokenKind) : Yields available (expressionUnless kind) fun read =>
    ∀ expression, read = some expression → expression.ReadFrom available := by
  refine (yields_at? kind).bind fun found _ => ?_
  split
  · exact .pure nofun
  · exact yields_someExpression

theorem yields_shape? : Yields available shape? fun _ => True :=
  yields_get.bind fun _ _ => .pure trivial

theorem yields_forInit : Yields available forInit fun read =>
    ∀ clause, read = some clause → clause.ReadFrom available := by
  refine (yields_accept _).bind fun empty _ => ?_
  split
  · exact .pure nofun
  · refine yields_shape?.bind fun shape _ => ?_
    split
    · refine yields_declaration.bind fun declared read => .pure ?_
      intro clause same
      cases same
      exact .declare read
    · refine yields_evaluation.bind fun found read => .pure ?_
      intro clause same
      cases same
      rw [read.1]
      exact .evaluate read.2

theorem yields_condition (before behind : Expectation) :
    Yields available (condition before behind) (Expr.ReadFrom available) := by
  refine (yields_expect _).bind fun _ _ => ?_
  refine yields_expression.bind fun test read => ?_
  exact (yields_expect _).bind fun _ _ => .pure read

structure ReadsStatements (available : Token → Prop) (fuel : Nat) : Prop where
  statement : Yields available (statement fuel) (Stmt.ReadFrom available)
  block : Yields available (block fuel) fun read => ∀ statement ∈ read, Stmt.ReadFrom available statement
  statements : Yields available (statements fuel) fun read => ∀ statement ∈ read, Stmt.ReadFrom available statement

variable {fuel : Nat}

theorem yields_ordinary {token : Token} :
    Yields available
      (do
        match ← shape? with
        | some .method => complain .misplacedMethod token
        | some .variable => .declare <$> declaration
        | none =>
            let (line, value) ← evaluation
            return .evaluate line value) (Stmt.ReadFrom available) := by
  refine yields_shape?.bind fun shape _ => ?_
  split
  · exact yields_complain
  · exact yields_map yields_declaration fun _ read => .declare read
  · refine yields_evaluation.bind fun found read => .pure ?_
    rw [read.1]
    exact .evaluate read.2

theorem yields_statement (reads : ReadsStatements available fuel) :
    Yields available (statement (fuel + 1)) (Stmt.ReadFrom available) := by
  rw [statement]
  refine yields_current.bind fun token given => ?_
  split
  · exact yields_complain
  · refine yields_advance.bind fun _ _ => ?_
    refine (yields_condition _ _).bind fun test condition => ?_
    refine reads.statement.bind fun consequent first => ?_
    refine (yields_accept _).bind fun more _ => ?_
    split
    · exact reads.statement.bind fun alternate second => .pure (.ifElse given condition first second)
    · exact .pure (.ifThen given condition first)
  · refine yields_advance.bind fun _ _ => ?_
    refine (yields_condition _ _).bind fun test condition => ?_
    exact reads.statement.bind fun body inner => .pure (.while_ given condition inner)
  · refine yields_advance.bind fun _ _ => ?_
    refine reads.statement.bind fun body inner => ?_
    refine (yields_expect _).bind fun _ _ => ?_
    refine (yields_condition _ _).bind fun test condition => ?_
    exact (yields_expect _).bind fun _ _ => .pure (.doWhile given condition inner)
  · refine yields_advance.bind fun _ _ => ?_
    refine (yields_expect _).bind fun _ _ => ?_
    refine yields_forInit.bind fun init first => ?_
    refine (yields_expressionUnless _).bind fun test condition => ?_
    refine (yields_expect _).bind fun _ _ => ?_
    refine (yields_expressionUnless _).bind fun update last => ?_
    refine (yields_expect _).bind fun _ _ => ?_
    exact reads.statement.bind fun body inner => .pure (.for_ given first condition last inner)
  · refine yields_advance.bind fun _ _ => ?_
    refine (yields_expressionUnless _).bind fun argument value => ?_
    exact (yields_expect _).bind fun _ _ => .pure (.return_ given value)
  · refine yields_advance.bind fun _ _ => ?_
    exact (yields_expect _).bind fun _ _ => .pure (.break_ given)
  · refine yields_advance.bind fun _ _ => ?_
    exact (yields_expect _).bind fun _ _ => .pure (.continue_ given)
  · exact reads.block.bind fun body inner => .pure (.block given inner)
  · exact yields_advance.bind fun _ _ => .pure (.block given nofun)
  · refine yields_advance.bind fun _ _ => ?_
    refine yields_shape?.bind fun shape _ => ?_
    split
    · refine yields_current.bind fun found _ => ?_
      exact Yields.bind yields_complain fun _ (impossible : False) => impossible.elim
    · exact yields_map yields_declaration fun _ read => .declare read
  · exact yields_unless fun _ => yields_ordinary

theorem yields_block (reads : ReadsStatements available fuel) :
    Yields available (block (fuel + 1)) fun read => ∀ statement ∈ read, Stmt.ReadFrom available statement := by
  rw [block]
  refine (yields_expect _).bind fun _ _ => ?_
  refine reads.statements.bind fun body inner => ?_
  exact (yields_expect _).bind fun _ _ => .pure inner

theorem yields_statements (reads : ReadsStatements available fuel) :
    Yields available (statements (fuel + 1)) fun read => ∀ statement ∈ read, Stmt.ReadFrom available statement := by
  rw [statements]
  refine yields_current.bind fun token _ => ?_
  split
  · exact .pure nofun
  · refine reads.statement.bind fun first readFirst => ?_
    exact reads.statements.bind fun others readOthers => .pure (List.forall_mem_cons.mpr ⟨readFirst, readOthers⟩)

theorem readsStatements (fuel : Nat) : ReadsStatements available fuel := by
  induction fuel with
  | zero => exact ⟨.reject, .reject, .reject⟩
  | succ fuel reads => exact ⟨yields_statement reads, yields_block reads, yields_statements reads⟩

theorem yields_param : Yields available param fun _ => True := by
  refine (yields_accept _).bind fun _ _ => ?_
  refine yields_current.bind fun start _ => ?_
  refine yields_unless fun _ => ?_
  refine yields_typeName.bind fun type _ => ?_
  exact (yields_expect _).bind fun _ _ => .pure trivial

theorem yields_params (fuel : Nat) : Yields available (params fuel) fun _ => True := by
  induction fuel with
  | zero => exact .reject
  | succ fuel hypothesis =>
      rw [params]
      refine yields_param.bind fun first _ => ?_
      refine (yields_accept _).bind fun more _ => ?_
      split
      · exact hypothesis.bind fun _ _ => .pure trivial
      · exact .pure trivial

theorem yields_method (fuel : Nat) : Yields available (method fuel) (Method.ReadFrom available) := by
  refine yields_current.bind fun start given => ?_
  refine yields_typeName.bind fun type _ => ?_
  refine (yields_expect _).bind fun name named => ?_
  refine (yields_expect _).bind fun _ _ => ?_
  refine (yields_at? _).bind fun empty _ => ?_
  extract_lets finish
  have closes : ∀ parameters, True → Yields available (finish parameters) (Method.ReadFrom available) := by
    intro parameters _
    refine (yields_expect _).bind fun _ _ => ?_
    exact (readsStatements fuel).block.bind fun body inner =>
      .pure ⟨⟨start, given, rfl⟩, ⟨name, named.1, named.2, rfl⟩, inner⟩
  split
  · exact (Yields.pure trivial).bind closes
  · exact (yields_params fuel).bind closes

theorem yields_modifiers (fuel : Nat) : Yields available (modifiers fuel) fun _ => True := by
  induction fuel with
  | zero => exact .reject
  | succ fuel hypothesis =>
      rw [modifiers]
      refine yields_current.bind fun token _ => ?_
      split
      · exact yields_advance.bind fun _ _ => hypothesis.bind fun _ _ => .pure trivial
      · exact .pure trivial

theorem yields_members (fuel : Nat) :
    Yields available (members fuel) fun read => ∀ member ∈ read, Member.ReadFrom available member := by
  induction fuel with
  | zero => exact .reject
  | succ fuel hypothesis =>
      rw [members]
      refine yields_current.bind fun token _ => ?_
      split
      · exact .pure nofun
      · refine (yields_modifiers fuel).bind fun isStatic _ => ?_
        refine yields_shape?.bind fun shape _ => ?_
        split
        · refine (yields_method fuel).bind fun first readFirst => ?_
          exact hypothesis.bind fun others readOthers =>
            .pure (List.forall_mem_cons.mpr ⟨.method readFirst, readOthers⟩)
        · refine yields_declaration.bind fun first readFirst => ?_
          refine hypothesis.bind fun others readOthers => .pure (List.forall_mem_cons.mpr ⟨.field ?_, readOthers⟩)
          exact ⟨readFirst.start, readFirst.name, readFirst.value⟩
        · exact yields_current.bind fun _ _ => yields_complain

theorem yields_classDecl (fuel : Nat) : Yields available (classDecl fuel) (ClassDecl.ReadFrom available) := by
  refine yields_advance.bind fun start given => ?_
  refine (yields_expect _).bind fun name named => ?_
  refine (yields_expect _).bind fun _ _ => ?_
  refine (yields_members fuel).bind fun body inner => ?_
  exact (yields_expect _).bind fun _ _ => .pure ⟨⟨start, given, rfl⟩, ⟨name, named.1, named.2, rfl⟩, inner⟩

theorem yields_directive (word : String) (fuel : Nat) : Yields available (directive word fuel) fun _ => True := by
  induction fuel with
  | zero => exact .reject
  | succ fuel hypothesis =>
      rw [directive]
      refine yields_current.bind fun token _ => ?_
      split
      · exact yields_advance.bind fun _ _ => .pure trivial
      · split
        · exact yields_complain
        · exact yields_advance.bind fun _ _ => hypothesis

theorem yields_classes (fuel : Nat) :
    Yields available (classes fuel) fun read => ∀ decl ∈ read, ClassDecl.ReadFrom available decl := by
  induction fuel with
  | zero => exact .reject
  | succ fuel hypothesis =>
      rw [classes]
      refine yields_current.bind fun token _ => ?_
      split
      · exact .pure nofun
      · split
        · refine yields_advance.bind fun _ _ => ?_
          exact (yields_directive _ fuel).bind fun _ _ => hypothesis
        · refine (yields_modifiers fuel).bind fun _ _ => ?_
          refine yields_current.bind fun start _ => ?_
          refine yields_unless fun _ => ?_
          refine (yields_classDecl fuel).bind fun first readFirst => ?_
          exact hypothesis.bind fun others readOthers =>
            .pure (List.forall_mem_cons.mpr ⟨readFirst, readOthers⟩)

theorem yields_program : Yields available program fun read =>
    ∀ decl ∈ read.classes, ClassDecl.ReadFrom available decl :=
  yields_get.bind fun _ _ => (yields_classes _).bind fun _ inner => .pure inner

end Reader

/-- The parts of an expression that was read were read. -/
theorem Expr.ReadFrom.parts {expression : Expr} (read : expression.ReadFrom available) :
    ∀ part ∈ expression.parts, part.ReadFrom available := by
  induction read with
  | int given kind spelled => exact List.forall_mem_singleton.mpr (.int given kind spelled)
  | double given kind spelled => exact List.forall_mem_singleton.mpr (.double given kind spelled)
  | bool value given kind => exact List.forall_mem_singleton.mpr (.bool value given kind)
  | string given kind => exact List.forall_mem_singleton.mpr (.string given kind)
  | char given kind => exact List.forall_mem_singleton.mpr (.char given kind)
  | null given kind => exact List.forall_mem_singleton.mpr (.null given kind)
  | name given kind => exact List.forall_mem_singleton.mpr (.name given kind)
  | @operation level left right operator first given held second firstParts secondParts =>
      have whole : Expr.ReadFrom available (level.node left operator.value right) :=
        .operation first given held second
      have shape : (level.node left operator.value right).parts =
          level.node left operator.value right :: (left.parts ++ right.parts) := by
        cases level <;> simp only [Level.node, Expr.parts]
      rw [shape, List.forall_mem_cons, List.forall_mem_append]
      exact ⟨whole, firstParts, secondParts⟩
  | unary given kind inner innerParts =>
      rw [Expr.parts.eq_def, List.forall_mem_cons]
      exact ⟨.unary given kind inner, innerParts⟩
  | conditional condition first second conditionParts firstParts secondParts =>
      rw [Expr.parts.eq_def, List.forall_mem_cons, List.forall_mem_append, List.forall_mem_append]
      exact ⟨.conditional condition first second, ⟨conditionParts, firstParts⟩, secondParts⟩
  | assign targeted located evaluated targetParts valueParts =>
      rw [Expr.parts.eq_def, List.forall_mem_cons, List.forall_mem_append]
      exact ⟨.assign targeted located evaluated, targetParts, valueParts⟩
  | compound targeted located given kind evaluated targetParts valueParts =>
      rw [Expr.parts.eq_def, List.forall_mem_cons, List.forall_mem_append]
      exact ⟨.compound targeted located given kind evaluated, targetParts, valueParts⟩
  | field inner given kind innerParts =>
      rw [Expr.parts.eq_def, List.forall_mem_cons]
      exact ⟨.field inner given kind, innerParts⟩
  | index container number containerParts numberParts =>
      rw [Expr.parts.eq_def, List.forall_mem_cons, List.forall_mem_append]
      exact ⟨.index container number, containerParts, numberParts⟩
  | call called passed calleeParts argumentParts =>
      rw [Expr.parts.eq_def, List.forall_mem_cons, List.forall_mem_append]
      exact ⟨.call called passed, calleeParts, Expr.forall_mem_partsAll.mpr argumentParts⟩
  | create given typed kind => exact List.forall_mem_singleton.mpr (.create given typed kind)
  | newArray given typed kind sized sizeParts =>
      rw [Expr.parts.eq_def, List.forall_mem_cons]
      exact ⟨.newArray given typed kind sized, sizeParts⟩
  | arrayOf given typed kind inner valueParts =>
      rw [Expr.parts.eq_def, List.forall_mem_cons]
      exact ⟨.arrayOf given typed kind inner, Expr.forall_mem_partsAll.mpr valueParts⟩
  | arrayLiteral given inner valueParts =>
      rw [Expr.parts.eq_def, List.forall_mem_cons]
      exact ⟨.arrayLiteral given inner, Expr.forall_mem_partsAll.mpr valueParts⟩
  | updateBefore given kind named nameKind =>
      exact List.forall_mem_singleton.mpr (.updateBefore given kind named nameKind)
  | updateAfter given kind named nameKind =>
      exact List.forall_mem_singleton.mpr (.updateAfter given kind named nameKind)

theorem Expr.readFrom_partsOf {expression : Option Expr}
    (read : ∀ present, expression = some present → present.ReadFrom available) :
    ∀ part ∈ Expr.partsOf expression, part.ReadFrom available := by
  cases expression with
  | none => exact nofun
  | some present => exact (read present rfl).parts

theorem ForInit.readFrom_expressions {init : Option ForInit}
    (read : ∀ clause, init = some clause → clause.ReadFrom available) :
    ∀ part ∈ ForInit.expressions init, part.ReadFrom available := by
  cases init with
  | none => exact nofun
  | some clause =>
      cases read clause rfl with
      | declare declared => exact Expr.readFrom_partsOf declared.value
      | evaluate evaluated => exact evaluated.parts

theorem Stmt.ReadFrom.expressions {statement : Stmt} (read : statement.ReadFrom available) :
    ∀ part ∈ statement.expressions, part.ReadFrom available := by
  induction read with
  | declare declared =>
      rw [Stmt.expressions]
      exact Expr.readFrom_partsOf declared.value
  | evaluate evaluated =>
      rw [Stmt.expressions]
      exact evaluated.parts
  | block given inner innerExpressions =>
      rw [Stmt.expressions]
      exact Stmt.forall_mem_expressionsAll.mpr innerExpressions
  | ifThen given condition first firstExpressions =>
      rw [Stmt.expressions, List.forall_mem_append]
      exact ⟨condition.parts, firstExpressions⟩
  | ifElse given condition first second firstExpressions secondExpressions =>
      rw [Stmt.expressions, List.forall_mem_append, List.forall_mem_append]
      exact ⟨⟨condition.parts, firstExpressions⟩, secondExpressions⟩
  | while_ given condition inner innerExpressions =>
      rw [Stmt.expressions, List.forall_mem_append]
      exact ⟨condition.parts, innerExpressions⟩
  | doWhile given condition inner innerExpressions =>
      rw [Stmt.expressions, List.forall_mem_append]
      exact ⟨condition.parts, innerExpressions⟩
  | for_ given first condition last inner innerExpressions =>
      rw [Stmt.expressions, List.forall_mem_append, List.forall_mem_append, List.forall_mem_append]
      exact ⟨⟨⟨ForInit.readFrom_expressions first, Expr.readFrom_partsOf condition⟩, Expr.readFrom_partsOf last⟩,
        innerExpressions⟩
  | return_ given value =>
      rw [Stmt.expressions]
      exact Expr.readFrom_partsOf value
  | break_ given => exact nofun
  | continue_ given => exact nofun

theorem ClassDecl.ReadFrom.expressions {decl : ClassDecl} (read : decl.ReadFrom available) :
    ∀ part ∈ decl.expressions, part.ReadFrom available := by
  intro part inside
  obtain ⟨member, present, partOf⟩ := List.mem_flatMap.mp inside
  cases read.body member present with
  | method declared =>
      exact Stmt.forall_mem_expressionsAll.mpr (fun statement within => (declared.body statement within).expressions)
        part partOf
  | field declared => exact Expr.readFrom_partsOf declared.value part partOf

/-- A list of tokens that spells a program is read from its first token on. -/
theorem Program.run_of_ofTokens {tokens : List Token} {program : Program}
    (spelled : Program.ofTokens tokens = .ok program) :
    ∃ first rest after, tokens = first :: rest ∧
      Reader.program.run { current := first, rest } = .ok program after := by
  unfold Program.ofTokens Program.start? at spelled
  cases tokens with
  | nil => cases spelled
  | cons first rest =>
      dsimp only at spelled
      by_cases terminated : (rest.getLastD first).isEnd = true
      · rw [if_pos terminated] at spelled
        dsimp only at spelled
        split at spelled
        · next read after ended =>
            cases spelled
            exact ⟨first, rest, after, rfl, ended⟩
        · cases spelled
      · rw [if_neg terminated] at spelled
        cases spelled

theorem Program.readFrom_of_ofTokens {tokens : List Token} {program : Program}
    (spelled : Program.ofTokens tokens = .ok program) :
    ∀ decl ∈ program.classes, decl.ReadFrom (· ∈ tokens) := by
  obtain ⟨first, rest, after, rfl, ended⟩ := Program.run_of_ofTokens spelled
  have within : Cursor.Within (· ∈ first :: rest) { current := first, rest } :=
    ⟨List.mem_cons_self, fun token member => List.mem_cons_of_mem _ member⟩
  exact (Reader.yields_program _ _ _ within ended).2

theorem compile_eq_ok {source : String} {compiled : Compiled} (accepted : compile source = .ok compiled) :
    scan source = .ok compiled.tokens ∧ Program.ofTokens compiled.tokens = .ok compiled.program := by
  unfold compile at accepted
  split at accepted
  · cases accepted
  · next tokens scanned =>
      split at accepted
      · cases accepted
      · next program spelled =>
          cases accepted
          exact ⟨scanned, spelled⟩

/-- Every expression of a program that was compiled was read from the tokens of its source. -/
theorem readFrom_of_compile {source : String} {compiled : Compiled} (accepted : compile source = .ok compiled) :
    ∀ part ∈ compiled.program.expressions, part.ReadFrom (· ∈ compiled.tokens) := by
  intro part inside
  obtain ⟨decl, member, partOf⟩ := List.mem_flatMap.mp inside
  have read := Program.readFrom_of_ofTokens (compile_eq_ok accepted).2 decl member
  exact read.expressions part partOf

end Stepwise
