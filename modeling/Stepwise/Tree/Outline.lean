import Stepwise.Tree
import Stepwise.Token
import Stepwise.Outline

/-!
Syntax trees and tokens as outlines: a node is a record with the name of its kind, its line and its parts.
-/

namespace Stepwise

set_option autoImplicit false

namespace Outline

def nat (number : Nat) : Outline := leaf (.int number)

def text (value : String) : Outline := leaf (.string value)

def flag (value : Bool) : Outline := leaf (.bool value)

def absent : Outline := leaf .null

def node (kind : String) (line : Nat) (parts : List (String × Outline)) : Outline :=
  record (some kind) (("line", nat line) :: parts)

def nameNode (line : Nat) (symbol : String) : Outline :=
  node "Identifier" line [("symbol", text symbol)]

end Outline

open Outline

mutual

def Expr.outline : Expr → Outline
  | .int line value => node "NumericLiteral" line [("value", leaf (.int value))]
  | .double line value => node "DoubleLiteral" line [("value", leaf (.double value))]
  | .bool line value => node "BooleanLiteral" line [("value", flag value)]
  | .string line raw => node "StringLiteral" line [("value", text raw)]
  | .char line raw => node "CharLiteral" line [("value", text raw)]
  | .null line => node "NullLiteral" line []
  | .name line symbol => nameNode line symbol
  | .binary line left operator right =>
      node "BinaryExpr" line
        [("left", left.outline), ("operator", text operator), ("right", right.outline)]
  | .logical line left operator right =>
      node "LogicalExpr" line
        [("left", left.outline), ("operator", text operator), ("right", right.outline)]
  | .unary line operator argument =>
      node "UnaryExpr" line [("operator", text operator), ("argument", argument.outline)]
  | .conditional line test consequent alternate =>
      node "ConditionalExpr" line
        [("test", test.outline), ("consequent", consequent.outline), ("alternate", alternate.outline)]
  | .assign line target value =>
      node "AssignmentExpr" line [("assignee", target.outline), ("value", value.outline)]
  | .compound line target operator value =>
      node "CompoundAssignmentExpr" line
        [("assignee", target.outline), ("operator", text operator), ("value", value.outline)]
  | .field line object nameLine symbol =>
      node "MemberExpr" line
        [("object", object.outline), ("property", nameNode nameLine symbol), ("computed", flag false)]
  | .index line object position =>
      node "MemberExpr" line
        [("object", object.outline), ("property", position.outline), ("computed", flag true)]
  | .call line callee arguments =>
      node "CallExpr" line [("callee", callee.outline), ("args", list (outlines arguments))]
  | .create line className => node "NewExpr" line [("class_name", text className)]
  | .newArray line elementType size =>
      node "ArrayCreationExpr" line
        [("element_type", text elementType), ("size", size.outline), ("values", absent)]
  | .arrayOf line elementType values =>
      node "ArrayCreationExpr" line
        [("element_type", text elementType), ("size", absent), ("values", list (outlines values))]
  | .update line form operator nameLine symbol =>
      node (if form = .before then "PrefixExpr" else "PostfixExpr") line
        [("operator", text operator), ("argument", nameNode nameLine symbol)]

def Expr.outlines : List Expr → List Outline
  | [] => []
  | expression :: others => expression.outline :: outlines others

end

def Expr.outline? : Option Expr → Outline
  | some expression => expression.outline
  | none => absent

def Declaration.outline (declaration : Declaration) : Outline :=
  node "VariableDeclaration" declaration.line
    [("type_name", text declaration.typeName), ("name", text declaration.name),
      ("value", Expr.outline? declaration.value), ("is_static", flag declaration.isStatic)]

def ForInit.outline : ForInit → Outline
  | declare declaration => declaration.outline
  | evaluate line expression => node "ExpressionStatement" line [("expression", expression.outline)]

def ForInit.outline? : Option ForInit → Outline
  | some init => init.outline
  | none => absent

mutual

def Stmt.outline : Stmt → Outline
  | .declare declaration => declaration.outline
  | .evaluate line expression => node "ExpressionStatement" line [("expression", expression.outline)]
  | .block line body => node "BlockStatement" line [("body", list (outlines body))]
  | .ifThen line test consequent =>
      node "IfStatement" line
        [("test", test.outline), ("consequent", consequent.outline), ("alternate", absent)]
  | .ifElse line test consequent alternate =>
      node "IfStatement" line
        [("test", test.outline), ("consequent", consequent.outline), ("alternate", alternate.outline)]
  | .while_ line test body => node "WhileStatement" line [("test", test.outline), ("body", body.outline)]
  | .doWhile line test body => node "DoWhileStatement" line [("test", test.outline), ("body", body.outline)]
  | .for_ line init test update body =>
      node "ForStatement" line
        [("init", ForInit.outline? init), ("test", Expr.outline? test), ("update", Expr.outline? update),
          ("body", body.outline)]
  | .return_ line argument => node "ReturnStatement" line [("argument", Expr.outline? argument)]
  | .break_ line => node "BreakStatement" line []
  | .continue_ line => node "ContinueStatement" line []

def Stmt.outlines : List Stmt → List Outline
  | [] => []
  | statement :: others => statement.outline :: outlines others

end

def Param.outline (param : Param) : Outline :=
  node "Param" param.line [("type_name", text param.typeName), ("name", text param.name)]

def Method.outline (method : Method) : Outline :=
  node "MethodDeclaration" method.line
    [("return_type", text method.returnType), ("name", text method.name),
      ("params", list (method.params.map Param.outline)), ("body", list (Stmt.outlines method.body))]

def Member.outline : Member → Outline
  | method declaration => declaration.outline
  | field declaration => declaration.outline

def ClassDecl.outline (decl : ClassDecl) : Outline :=
  node "ClassDeclaration" decl.line
    [("name", text decl.name), ("body", list (decl.body.map Member.outline))]

/-- A program counts as beginning on the first line. -/
def Program.outline (program : Program) : Outline :=
  node "Program" 1 [("body", list (program.classes.map ClassDecl.outline))]

/-- A token is a record of its own fields, one of which is its kind. -/
def Token.outline (token : Token) : Outline :=
  record none
    [("kind", text token.kind.label), ("value", text token.value), ("line", nat token.line),
      ("column", nat token.column)]

end Stepwise
