/-!
The syntax tree of a program. Every node knows the line it came from. Operators and type names are kept as they were
written; a literal keeps its raw text where the text has escapes. What the grammar guarantees beyond these types, such
as which operators occur, is a property of trees that were read from a source.
-/

namespace Stepwise

set_option autoImplicit false

/-- Whether an update operator stands before or after its variable. -/
inductive UpdateForm
  | before | after
  deriving DecidableEq, Repr

inductive Expr
  | int (line : Nat) (value : Int)
  | double (line : Nat) (value : Float)
  | bool (line : Nat) (value : Bool)
  | string (line : Nat) (raw : String)
  | char (line : Nat) (raw : String)
  | null (line : Nat)
  | name (line : Nat) (symbol : String)
  | binary (line : Nat) (left : Expr) (operator : String) (right : Expr)
  | logical (line : Nat) (left : Expr) (operator : String) (right : Expr)
  | unary (line : Nat) (operator : String) (argument : Expr)
  | conditional (line : Nat) (test consequent alternate : Expr)
  | assign (line : Nat) (target value : Expr)
  | compound (line : Nat) (target : Expr) (operator : String) (value : Expr)
  | field (line : Nat) (object : Expr) (nameLine : Nat) (name : String)
  | index (line : Nat) (object position : Expr)
  | call (line : Nat) (callee : Expr) (arguments : List Expr)
  | create (line : Nat) (className : String)
  | newArray (line : Nat) (elementType : String) (size : Expr)
  | arrayOf (line : Nat) (elementType : String) (values : List Expr)
  | update (line : Nat) (form : UpdateForm) (operator : String) (nameLine : Nat) (name : String)
  deriving Repr

def Expr.line : Expr → Nat
  | int line _ | double line _ | bool line _ | string line _ | char line _ | null line | name line _
  | binary line .. | logical line .. | unary line .. | conditional line .. | assign line .. | compound line ..
  | field line .. | index line .. | call line .. | create line _ | newArray line .. | arrayOf line ..
  | update line .. => line

structure Declaration where
  line : Nat
  typeName : String
  name : String
  value : Option Expr
  isStatic : Bool
  deriving Repr

inductive ForInit
  | declare (declaration : Declaration)
  | evaluate (line : Nat) (expression : Expr)
  deriving Repr

inductive Stmt
  | declare (declaration : Declaration)
  | evaluate (line : Nat) (expression : Expr)
  | block (line : Nat) (body : List Stmt)
  | ifThen (line : Nat) (test : Expr) (consequent : Stmt)
  | ifElse (line : Nat) (test : Expr) (consequent alternate : Stmt)
  | while_ (line : Nat) (test : Expr) (body : Stmt)
  | doWhile (line : Nat) (test : Expr) (body : Stmt)
  | for_ (line : Nat) (init : Option ForInit) (test update : Option Expr) (body : Stmt)
  | return_ (line : Nat) (argument : Option Expr)
  | break_ (line : Nat)
  | continue_ (line : Nat)
  deriving Repr

structure Param where
  line : Nat
  typeName : String
  name : String
  deriving DecidableEq, Repr

structure Method where
  line : Nat
  returnType : String
  name : String
  params : List Param
  body : List Stmt
  deriving Repr

inductive Member
  | method (declaration : Method)
  | field (declaration : Declaration)
  deriving Repr

structure ClassDecl where
  line : Nat
  name : String
  body : List Member
  deriving Repr

structure Program where
  classes : List ClassDecl
  deriving Repr

namespace ClassDecl

def methodDeclarations (decl : ClassDecl) : List Method :=
  decl.body.filterMap fun
    | .method declaration => some declaration
    | .field _ => none

def fieldDeclarations (decl : ClassDecl) : List Declaration :=
  decl.body.filterMap fun
    | .method _ => none
    | .field declaration => some declaration

/-- The method of a name. Where a name is declared twice, the last declaration counts. -/
def method? (decl : ClassDecl) (name : String) : Option Method :=
  decl.methodDeclarations.reverse.find? fun method => method.name = name

/-- The names of the methods, each at the place of its first declaration. -/
def methodNames (decl : ClassDecl) : List String :=
  decl.methodDeclarations.foldl
    (fun names method => if names.contains method.name then names else names ++ [method.name]) []

/-- One method for each name. -/
def methods (decl : ClassDecl) : List Method :=
  decl.methodNames.filterMap decl.method?

def staticFields (decl : ClassDecl) : List Declaration :=
  decl.fieldDeclarations.filter fun declaration => declaration.isStatic

def instanceFields (decl : ClassDecl) : List Declaration :=
  decl.fieldDeclarations.filter fun declaration => !declaration.isStatic

end ClassDecl

def Program.class? (program : Program) (name : String) : Option ClassDecl :=
  program.classes.find? fun decl => decl.name = name

end Stepwise
