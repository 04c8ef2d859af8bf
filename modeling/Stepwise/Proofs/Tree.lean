import Stepwise.Tree

/-!
# Trees and the expressions in them

Expressions hold lists of expressions, and statements lists of statements, so induction over them has to reach into
the lists. The expressions of a tree, every part of an expression counted, are listed from the outside inwards; what
is known of all expressions of a program is known of whatever a run evaluates.
-/

namespace Stepwise

set_option autoImplicit false

@[elab_as_elim]
theorem Expr.induction {motive : Expr → Prop}
    (int : ∀ line value, motive (.int line value))
    (double : ∀ line value, motive (.double line value))
    (bool : ∀ line value, motive (.bool line value))
    (string : ∀ line raw, motive (.string line raw))
    (char : ∀ line raw, motive (.char line raw))
    (null : ∀ line, motive (.null line))
    (name : ∀ line symbol, motive (.name line symbol))
    (binary : ∀ line left operator right, motive left → motive right → motive (.binary line left operator right))
    (logical : ∀ line left operator right, motive left → motive right → motive (.logical line left operator right))
    (unary : ∀ line operator argument, motive argument → motive (.unary line operator argument))
    (conditional : ∀ line test consequent alternate, motive test → motive consequent → motive alternate →
      motive (.conditional line test consequent alternate))
    (assign : ∀ line target value, motive target → motive value → motive (.assign line target value))
    (compound : ∀ line target operator value, motive target → motive value →
      motive (.compound line target operator value))
    (field : ∀ line object nameLine name, motive object → motive (.field line object nameLine name))
    (index : ∀ line object position, motive object → motive position → motive (.index line object position))
    (call : ∀ line callee arguments, motive callee → (∀ argument ∈ arguments, motive argument) →
      motive (.call line callee arguments))
    (create : ∀ line className, motive (.create line className))
    (newArray : ∀ line elementType size, motive size → motive (.newArray line elementType size))
    (arrayOf : ∀ line elementType values, (∀ value ∈ values, motive value) →
      motive (.arrayOf line elementType values))
    (update : ∀ line form operator nameLine name, motive (.update line form operator nameLine name))
    (expression : Expr) : motive expression :=
  @Expr.rec motive (fun expressions => ∀ expression ∈ expressions, motive expression)
    int double bool string char null name binary logical unary conditional assign compound field index call create
    newArray arrayOf update
    (fun _ impossible => absurd impossible List.not_mem_nil)
    (fun _ _ first others _ member => by
      rcases List.mem_cons.mp member with same | later
      · exact same ▸ first
      · exact others _ later)
    expression

@[elab_as_elim]
theorem Stmt.induction {motive : Stmt → Prop}
    (declare : ∀ declaration, motive (.declare declaration))
    (evaluate : ∀ line expression, motive (.evaluate line expression))
    (block : ∀ line body, (∀ statement ∈ body, motive statement) → motive (.block line body))
    (ifThen : ∀ line test consequent, motive consequent → motive (.ifThen line test consequent))
    (ifElse : ∀ line test consequent alternate, motive consequent → motive alternate →
      motive (.ifElse line test consequent alternate))
    (while_ : ∀ line test body, motive body → motive (.while_ line test body))
    (doWhile : ∀ line test body, motive body → motive (.doWhile line test body))
    (for_ : ∀ line init test update body, motive body → motive (.for_ line init test update body))
    (return_ : ∀ line argument, motive (.return_ line argument))
    (break_ : ∀ line, motive (.break_ line))
    (continue_ : ∀ line, motive (.continue_ line))
    (statement : Stmt) : motive statement :=
  @Stmt.rec motive (fun statements => ∀ statement ∈ statements, motive statement)
    declare evaluate block ifThen ifElse while_ doWhile for_ return_ break_ continue_
    (fun _ impossible => absurd impossible List.not_mem_nil)
    (fun _ _ first others _ member => by
      rcases List.mem_cons.mp member with same | later
      · exact same ▸ first
      · exact others _ later)
    statement

mutual

def Expr.parts (expression : Expr) : List Expr :=
  expression ::
    match expression with
    | .binary _ left _ right | .logical _ left _ right => left.parts ++ right.parts
    | .unary _ _ argument => argument.parts
    | .conditional _ test consequent alternate => test.parts ++ consequent.parts ++ alternate.parts
    | .assign _ target value | .compound _ target _ value => target.parts ++ value.parts
    | .field _ object _ _ => object.parts
    | .index _ object position => object.parts ++ position.parts
    | .call _ callee arguments => callee.parts ++ Expr.partsAll arguments
    | .newArray _ _ size => size.parts
    | .arrayOf _ _ values => Expr.partsAll values
    | _ => []

def Expr.partsAll : List Expr → List Expr
  | [] => []
  | expression :: others => expression.parts ++ Expr.partsAll others

end

theorem Expr.mem_parts_self (expression : Expr) : expression ∈ expression.parts := by
  rw [Expr.parts.eq_def]
  exact List.mem_cons_self

theorem Expr.forall_mem_partsAll {known : Expr → Prop} {expressions : List Expr} :
    (∀ part ∈ Expr.partsAll expressions, known part) ↔
      ∀ expression ∈ expressions, ∀ part ∈ expression.parts, known part := by
  induction expressions with
  | nil => simp [Expr.partsAll]
  | cons first others hypothesis =>
      rw [Expr.partsAll, List.forall_mem_append, List.forall_mem_cons, hypothesis]

def Expr.partsOf : Option Expr → List Expr
  | some expression => expression.parts
  | none => []

def Declaration.expressions (declaration : Declaration) : List Expr :=
  Expr.partsOf declaration.value

def ForInit.expressions : Option ForInit → List Expr
  | none => []
  | some (.declare declaration) => declaration.expressions
  | some (.evaluate _ expression) => expression.parts

mutual

def Stmt.expressions : Stmt → List Expr
  | .declare declaration => declaration.expressions
  | .evaluate _ expression => expression.parts
  | .block _ body => Stmt.expressionsAll body
  | .ifThen _ test consequent => test.parts ++ consequent.expressions
  | .ifElse _ test consequent alternate => test.parts ++ consequent.expressions ++ alternate.expressions
  | .while_ _ test body | .doWhile _ test body => test.parts ++ body.expressions
  | .for_ _ init test update body =>
      ForInit.expressions init ++ Expr.partsOf test ++ Expr.partsOf update ++ body.expressions
  | .return_ _ argument => Expr.partsOf argument
  | .break_ _ | .continue_ _ => []

def Stmt.expressionsAll : List Stmt → List Expr
  | [] => []
  | statement :: others => statement.expressions ++ Stmt.expressionsAll others

end

theorem Stmt.forall_mem_expressionsAll {known : Expr → Prop} {statements : List Stmt} :
    (∀ part ∈ Stmt.expressionsAll statements, known part) ↔
      ∀ statement ∈ statements, ∀ part ∈ statement.expressions, known part := by
  induction statements with
  | nil => simp [Stmt.expressionsAll]
  | cons first others hypothesis =>
      rw [Stmt.expressionsAll, List.forall_mem_append, List.forall_mem_cons, hypothesis]

def ForInit.declarations : Option ForInit → List Declaration
  | some (.declare declaration) => [declaration]
  | _ => []

mutual

/-- The declarations of variables in a statement. -/
def Stmt.declarations : Stmt → List Declaration
  | .declare declaration => [declaration]
  | .block _ body => Stmt.declarationsAll body
  | .ifThen _ _ body | .while_ _ _ body | .doWhile _ _ body => body.declarations
  | .ifElse _ _ consequent alternate => consequent.declarations ++ alternate.declarations
  | .for_ _ init _ _ body => ForInit.declarations init ++ body.declarations
  | .evaluate .. | .return_ .. | .break_ _ | .continue_ _ => []

def Stmt.declarationsAll : List Stmt → List Declaration
  | [] => []
  | statement :: others => statement.declarations ++ Stmt.declarationsAll others

end

theorem Stmt.forall_mem_declarationsAll {known : Declaration → Prop} {statements : List Stmt} :
    (∀ declaration ∈ Stmt.declarationsAll statements, known declaration) ↔
      ∀ statement ∈ statements, ∀ declaration ∈ statement.declarations, known declaration := by
  induction statements with
  | nil => simp [Stmt.declarationsAll]
  | cons first others hypothesis =>
      rw [Stmt.declarationsAll, List.forall_mem_append, List.forall_mem_cons, hypothesis]

def Member.expressions : Member → List Expr
  | .method declaration => Stmt.expressionsAll declaration.body
  | .field declaration => declaration.expressions

def ClassDecl.expressions (decl : ClassDecl) : List Expr :=
  decl.body.flatMap Member.expressions

/-- Every expression of a program, with all its parts. -/
def Program.expressions (program : Program) : List Expr :=
  program.classes.flatMap ClassDecl.expressions

def Member.declarations : Member → List Declaration
  | .method declaration => Stmt.declarationsAll declaration.body
  | .field declaration => [declaration]

/-- Every declaration of a program, of a variable or of a field. -/
def Program.declarations (program : Program) : List Declaration :=
  program.classes.flatMap fun decl => decl.body.flatMap Member.declarations

namespace ClassDecl

variable {decl : ClassDecl} {method : Method} {name : String}

theorem method?_eq_some (found : decl.method? name = some method) :
    method.name = name ∧ method ∈ decl.methodDeclarations := by
  refine ⟨?_, List.mem_reverse.mp (List.mem_of_find?_eq_some found)⟩
  simpa using List.find?_some found

theorem mem_body (declared : method ∈ decl.methodDeclarations) : .method method ∈ decl.body := by
  obtain ⟨member, present, same⟩ := List.mem_filterMap.mp declared
  cases member with
  | method declaration =>
      cases same
      exact present
  | field declaration => cases same

end ClassDecl

theorem ClassDecl.mem_body_of_field {decl : ClassDecl} {declaration : Declaration}
    (declared : declaration ∈ decl.fieldDeclarations) : .field declaration ∈ decl.body := by
  obtain ⟨member, present, same⟩ := List.mem_filterMap.mp declared
  cases member with
  | method other => cases same
  | field other =>
      cases same
      exact present

theorem ClassDecl.expressions_of_method? {known : Expr → Prop} {decl : ClassDecl} {name : String} {method : Method}
    (all : ∀ part ∈ decl.expressions, known part) (found : decl.method? name = some method) :
    ∀ part ∈ Stmt.expressionsAll method.body, known part :=
  fun part member => all part (List.mem_flatMap.mpr ⟨_, mem_body (method?_eq_some found).2, member⟩)

theorem ClassDecl.expressions_of_field {known : Expr → Prop} {decl : ClassDecl} {declaration : Declaration}
    (all : ∀ part ∈ decl.expressions, known part) (declared : declaration ∈ decl.fieldDeclarations) :
    ∀ part ∈ declaration.expressions, known part := by
  exact fun part member => all part (List.mem_flatMap.mpr ⟨_, mem_body_of_field declared, member⟩)

theorem Program.expressions_of_mem {known : Expr → Prop} {program : Program} {decl : ClassDecl}
    (all : ∀ part ∈ program.expressions, known part) (member : decl ∈ program.classes) :
    ∀ part ∈ decl.expressions, known part :=
  fun part inside => all part (List.mem_flatMap.mpr ⟨decl, member, inside⟩)

theorem Program.mem_declarations_of_method? {program : Program} {decl : ClassDecl} {name : String} {method : Method}
    {declaration : Declaration} (member : decl ∈ program.classes) (found : decl.method? name = some method)
    (inside : declaration ∈ Stmt.declarationsAll method.body) : declaration ∈ program.declarations :=
  List.mem_flatMap.mpr ⟨decl, member, List.mem_flatMap.mpr ⟨_, ClassDecl.mem_body (ClassDecl.method?_eq_some found).2, inside⟩⟩

theorem Program.mem_declarations_of_field {program : Program} {decl : ClassDecl} {declaration : Declaration}
    (member : decl ∈ program.classes) (declared : declaration ∈ decl.fieldDeclarations) :
    declaration ∈ program.declarations :=
  List.mem_flatMap.mpr ⟨decl, member, List.mem_flatMap.mpr ⟨_, ClassDecl.mem_body_of_field declared, List.mem_singleton_self _⟩⟩

end Stepwise
