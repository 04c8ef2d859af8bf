import Stepwise.Proofs.Tree
import Stepwise.Tree.Expression

/-!
# Trees on other lines, and without any

Every line of a tree may be put through a function. A tree that is read again from other tokens has other lines: two
trees are the same but for their lines if they are equal once every line is erased, which is what the function that is
zero throughout does.
-/

namespace Stepwise

set_option autoImplicit false

section Relined

variable (move : Nat → Nat)

mutual

def Expr.relined : Expr → Expr
  | .int line value => .int (move line) value
  | .double line value => .double (move line) value
  | .bool line value => .bool (move line) value
  | .string line raw => .string (move line) raw
  | .char line raw => .char (move line) raw
  | .null line => .null (move line)
  | .name line symbol => .name (move line) symbol
  | .binary line left operator right => .binary (move line) left.relined operator right.relined
  | .logical line left operator right => .logical (move line) left.relined operator right.relined
  | .unary line operator argument => .unary (move line) operator argument.relined
  | .conditional line test consequent alternate =>
      .conditional (move line) test.relined consequent.relined alternate.relined
  | .assign line target value => .assign (move line) target.relined value.relined
  | .compound line target operator value => .compound (move line) target.relined operator value.relined
  | .field line object nameLine symbol => .field (move line) object.relined (move nameLine) symbol
  | .index line object position => .index (move line) object.relined position.relined
  | .call line callee arguments => .call (move line) callee.relined (Expr.relinedAll arguments)
  | .create line className => .create (move line) className
  | .newArray line elementType size => .newArray (move line) elementType size.relined
  | .arrayOf line elementType values => .arrayOf (move line) elementType (Expr.relinedAll values)
  | .update line form operator nameLine symbol => .update (move line) form operator (move nameLine) symbol

def Expr.relinedAll : List Expr → List Expr
  | [] => []
  | expression :: others => expression.relined :: Expr.relinedAll others

end

def Declaration.relined (declaration : Declaration) : Declaration :=
  { declaration with line := move declaration.line, value := declaration.value.map (Expr.relined move) }

def ForInit.relined : ForInit → ForInit
  | .declare declaration => .declare (declaration.relined move)
  | .evaluate line expression => .evaluate (move line) (expression.relined move)

mutual

def Stmt.relined : Stmt → Stmt
  | .declare declaration => .declare (declaration.relined move)
  | .evaluate line expression => .evaluate (move line) (expression.relined move)
  | .block line body => .block (move line) (Stmt.relinedAll body)
  | .ifThen line test consequent => .ifThen (move line) (test.relined move) consequent.relined
  | .ifElse line test consequent alternate =>
      .ifElse (move line) (test.relined move) consequent.relined alternate.relined
  | .while_ line test body => .while_ (move line) (test.relined move) body.relined
  | .doWhile line test body => .doWhile (move line) (test.relined move) body.relined
  | .for_ line init test update body =>
      .for_ (move line) (init.map (ForInit.relined move)) (test.map (Expr.relined move))
        (update.map (Expr.relined move)) body.relined
  | .return_ line argument => .return_ (move line) (argument.map (Expr.relined move))
  | .break_ line => .break_ (move line)
  | .continue_ line => .continue_ (move line)

def Stmt.relinedAll : List Stmt → List Stmt
  | [] => []
  | statement :: others => statement.relined :: Stmt.relinedAll others

end

def Param.relined (param : Param) : Param :=
  { param with line := move param.line }

def Method.relined (method : Method) : Method :=
  { method with
    line := move method.line
    params := method.params.map (Param.relined move)
    body := Stmt.relinedAll move method.body }

def Member.relined : Member → Member
  | .method declaration => .method (declaration.relined move)
  | .field declaration => .field (declaration.relined move)

def ClassDecl.relined (decl : ClassDecl) : ClassDecl :=
  { decl with line := move decl.line, body := decl.body.map (Member.relined move) }

def Program.relined (program : Program) : Program :=
  { classes := program.classes.map (ClassDecl.relined move) }

end Relined

mutual

def Expr.erased : Expr → Expr
  | .int _ value => .int 0 value
  | .double _ value => .double 0 value
  | .bool _ value => .bool 0 value
  | .string _ raw => .string 0 raw
  | .char _ raw => .char 0 raw
  | .null _ => .null 0
  | .name _ symbol => .name 0 symbol
  | .binary _ left operator right => .binary 0 left.erased operator right.erased
  | .logical _ left operator right => .logical 0 left.erased operator right.erased
  | .unary _ operator argument => .unary 0 operator argument.erased
  | .conditional _ test consequent alternate => .conditional 0 test.erased consequent.erased alternate.erased
  | .assign _ target value => .assign 0 target.erased value.erased
  | .compound _ target operator value => .compound 0 target.erased operator value.erased
  | .field _ object _ symbol => .field 0 object.erased 0 symbol
  | .index _ object position => .index 0 object.erased position.erased
  | .call _ callee arguments => .call 0 callee.erased (Expr.erasedAll arguments)
  | .create _ className => .create 0 className
  | .newArray _ elementType size => .newArray 0 elementType size.erased
  | .arrayOf _ elementType values => .arrayOf 0 elementType (Expr.erasedAll values)
  | .update _ form operator _ symbol => .update 0 form operator 0 symbol

def Expr.erasedAll : List Expr → List Expr
  | [] => []
  | expression :: others => expression.erased :: Expr.erasedAll others

end

theorem Expr.isTarget_erased (expression : Expr) : expression.erased.isTarget = expression.isTarget := by
  cases expression <;> simp only [erased, isTarget]

theorem Expr.erased_node (level : Level) {left right one two : Expr} (first : one.erased = left.erased)
    (second : two.erased = right.erased) (operator : String) :
    (level.node one operator two).erased = (level.node left operator right).erased := by
  cases level <;> simp only [Level.node, erased, first, second]

def Declaration.erased (declaration : Declaration) : Declaration :=
  { declaration with line := 0, value := declaration.value.map Expr.erased }

def ForInit.erased : ForInit → ForInit
  | .declare declaration => .declare declaration.erased
  | .evaluate _ expression => .evaluate 0 expression.erased

mutual

def Stmt.erased : Stmt → Stmt
  | .declare declaration => .declare declaration.erased
  | .evaluate _ expression => .evaluate 0 expression.erased
  | .block _ body => .block 0 (Stmt.erasedAll body)
  | .ifThen _ test consequent => .ifThen 0 test.erased consequent.erased
  | .ifElse _ test consequent alternate => .ifElse 0 test.erased consequent.erased alternate.erased
  | .while_ _ test body => .while_ 0 test.erased body.erased
  | .doWhile _ test body => .doWhile 0 test.erased body.erased
  | .for_ _ init test update body =>
      .for_ 0 (init.map ForInit.erased) (test.map Expr.erased) (update.map Expr.erased) body.erased
  | .return_ _ argument => .return_ 0 (argument.map Expr.erased)
  | .break_ _ => .break_ 0
  | .continue_ _ => .continue_ 0

def Stmt.erasedAll : List Stmt → List Stmt
  | [] => []
  | statement :: others => statement.erased :: Stmt.erasedAll others

end

def Param.erased (param : Param) : Param :=
  { param with line := 0 }

def Method.erased (method : Method) : Method :=
  { method with line := 0, params := method.params.map Param.erased, body := Stmt.erasedAll method.body }

def Member.erased : Member → Member
  | .method declaration => .method declaration.erased
  | .field declaration => .field declaration.erased

def ClassDecl.erased (decl : ClassDecl) : ClassDecl :=
  { decl with line := 0, body := decl.body.map Member.erased }

def Program.erased (program : Program) : Program :=
  { classes := program.classes.map ClassDecl.erased }

theorem Expr.relined_zero (expression : Expr) : expression.relined (fun _ => 0) = expression.erased := by
  have all : ∀ expressions : List Expr, (∀ part ∈ expressions, part.relined (fun _ => 0) = part.erased) →
      Expr.relinedAll (fun _ => 0) expressions = Expr.erasedAll expressions := by
    intro expressions same
    induction expressions with
    | nil => rw [relinedAll, erasedAll]
    | cons expression others ih =>
        rw [relinedAll, erasedAll, same expression List.mem_cons_self,
          ih fun part member => same part (List.mem_cons_of_mem _ member)]
  induction expression using Expr.induction with
  | call line callee arguments called passed => rw [relined, erased, called, all arguments passed]
  | arrayOf line elementType values inner => rw [relined, erased, all values inner]
  | _ => simp only [relined, erased, *]

theorem Declaration.relined_zero (declaration : Declaration) :
    declaration.relined (fun _ => 0) = declaration.erased := by
  simp only [relined, erased, funext Expr.relined_zero]

theorem ForInit.relined_zero (clause : ForInit) : clause.relined (fun _ => 0) = clause.erased := by
  cases clause with
  | declare declaration => rw [relined, erased, declaration.relined_zero]
  | evaluate line expression => rw [relined, erased, expression.relined_zero]

theorem Stmt.relinedAll_zero {statements : List Stmt}
    (same : ∀ part ∈ statements, part.relined (fun _ => 0) = part.erased) :
    Stmt.relinedAll (fun _ => 0) statements = Stmt.erasedAll statements := by
  induction statements with
  | nil => rw [relinedAll, erasedAll]
  | cons statement others ih =>
      rw [relinedAll, erasedAll, same statement List.mem_cons_self,
        ih fun part member => same part (List.mem_cons_of_mem _ member)]

theorem Stmt.relined_zero (statement : Stmt) : statement.relined (fun _ => 0) = statement.erased := by
  induction statement using Stmt.induction with
  | block line body inner => rw [relined, erased, relinedAll_zero inner]
  | _ =>
      simp only [relined, erased, Declaration.relined_zero, funext Expr.relined_zero, funext ForInit.relined_zero, *]

theorem Method.relined_zero (method : Method) : method.relined (fun _ => 0) = method.erased := by
  rw [relined, erased, Stmt.relinedAll_zero fun part _ => part.relined_zero]
  rfl

theorem Member.relined_zero (member : Member) : member.relined (fun _ => 0) = member.erased := by
  cases member with
  | method declaration => rw [relined, erased, declaration.relined_zero]
  | field declaration => rw [relined, erased, declaration.relined_zero]

theorem Program.relined_zero (program : Program) : program.relined (fun _ => 0) = program.erased := by
  have decl : ∀ decl : ClassDecl, decl.relined (fun _ => 0) = decl.erased := by
    intro decl
    rw [ClassDecl.relined, ClassDecl.erased, funext Member.relined_zero]
  rw [relined, erased, funext decl]

end Stepwise
