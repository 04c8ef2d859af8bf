import Stepwise.Proofs.Printing
import Stepwise.Token.Scan

/-!
# Printing programs

Statements, members and classes are printed as they stand in a source. A type is printed as its name, with a pair of
brackets behind it if it is one of arrays. A field is printed with its modifier if it is static; other modifiers leave no
trace in a tree. An empty statement is a block without statements, and it is printed as one.

A statement is open if an `else` behind it would belong to it. What stands before the `else` of a statement is not open.
-/

namespace Stepwise

set_option autoImplicit false

namespace Word

def type (typeName : String) : List Word :=
  match typeName.toList.reverse with
  | ']' :: '[' :: base => [named (String.ofList base.reverse), symbol .leftBracket, symbol .rightBracket]
  | _ => [named typeName]

def last : Word :=
  { kind := .endOfInput, value := "EOF" }

end Word

variable (spelling : Spelling)

def Expr.wordsOf : Option Expr → List Word
  | some expression => expression.words spelling
  | none => []

def Declaration.words (declaration : Declaration) : List Word :=
  Word.type declaration.typeName ++ .named declaration.name ::
    ((match declaration.value with
      | some value => .symbol .assign :: value.words spelling
      | none => []) ++ [.symbol .semicolon])

def ForInit.words : Option ForInit → List Word
  | none => [.symbol .semicolon]
  | some (.declare declaration) => declaration.words spelling
  | some (.evaluate _ expression) => expression.words spelling ++ [.symbol .semicolon]

def Expr.guarding (test : Expr) : List Word :=
  .symbol .leftParen :: (test.words spelling ++ [.symbol .rightParen])

mutual

def Stmt.words : Stmt → List Word
  | .declare declaration => declaration.words spelling
  | .evaluate _ expression => expression.words spelling ++ [.symbol .semicolon]
  | .block _ body => .symbol .leftBrace :: (Stmt.wordsAll body ++ [.symbol .rightBrace])
  | .ifThen _ test consequent => .keyword .if_ :: (test.guarding spelling ++ consequent.words)
  | .ifElse _ test consequent alternate =>
      .keyword .if_ :: (test.guarding spelling ++ (consequent.words ++ .keyword .else_ :: alternate.words))
  | .while_ _ test body => .keyword .while_ :: (test.guarding spelling ++ body.words)
  | .doWhile _ test body =>
      .keyword .do_ :: (body.words ++ .keyword .while_ :: (test.guarding spelling ++ [.symbol .semicolon]))
  | .for_ _ init test update body =>
      .keyword .for_ :: .symbol .leftParen :: (ForInit.words spelling init ++ (Expr.wordsOf spelling test ++
        .symbol .semicolon :: (Expr.wordsOf spelling update ++ .symbol .rightParen :: body.words)))
  | .return_ _ argument => .keyword .return_ :: (Expr.wordsOf spelling argument ++ [.symbol .semicolon])
  | .break_ _ => [.keyword .break_, .symbol .semicolon]
  | .continue_ _ => [.keyword .continue_, .symbol .semicolon]

def Stmt.wordsAll : List Stmt → List Word
  | [] => []
  | statement :: others => statement.words ++ Stmt.wordsAll others

end

def Param.words (param : Param) : List Word :=
  Word.type param.typeName ++ [.named param.name]

def Param.listed : List Param → List Word
  | [] => []
  | [param] => param.words
  | param :: others => param.words ++ .symbol .comma :: Param.listed others

def Method.words (method : Method) : List Word :=
  Word.type method.returnType ++ .named method.name :: .symbol .leftParen :: (Param.listed method.params ++
    .symbol .rightParen :: .symbol .leftBrace :: (Stmt.wordsAll spelling method.body ++ [.symbol .rightBrace]))

def Member.words : Member → List Word
  | .method declaration => declaration.words spelling
  | .field declaration =>
      (if declaration.isStatic then [.keyword .static] else []) ++ declaration.words spelling

def Member.wordsAll : List Member → List Word
  | [] => []
  | member :: others => member.words spelling ++ Member.wordsAll others

def ClassDecl.words (decl : ClassDecl) : List Word :=
  .keyword .class_ :: .named decl.name :: .symbol .leftBrace ::
    (Member.wordsAll spelling decl.body ++ [.symbol .rightBrace])

def ClassDecl.wordsAll : List ClassDecl → List Word
  | [] => []
  | decl :: others => decl.words spelling ++ ClassDecl.wordsAll others

def Program.words (program : Program) : List Word :=
  ClassDecl.wordsAll spelling program.classes ++ [.last]

/-- The name of a type: that of a word of some kinds, made of characters that can stand in a name, perhaps with brackets
behind it. -/
inductive TypeName (known : TokenKind → Prop) : String → Prop
  | plain {base : String} (kind : known (Word.named base).kind)
      (parts : ∀ part ∈ base.toList, Scan.isNamePart part = true) : TypeName known base
  | array {base : String} (kind : known (Word.named base).kind)
      (parts : ∀ part ∈ base.toList, Scan.isNamePart part = true) : TypeName known (base ++ "[]")

structure Declaration.Shaped (declaration : Declaration) : Prop where
  typed : TypeName (fun kind => kind.isType = true) declaration.typeName
  named : (Word.named declaration.name).kind = .identifier
  value : ∀ expression, declaration.value = some expression → expression.Shaped

inductive ForInit.Shaped : ForInit → Prop
  | declare {declaration : Declaration} (shaped : declaration.Shaped) (local_ : declaration.isStatic = false) :
      Shaped (.declare declaration)
  | evaluate (line : Nat) {expression : Expr} (shaped : expression.Shaped) : Shaped (.evaluate line expression)

/-- Whether an `else` behind a statement would belong to it. -/
def Stmt.isOpen : Stmt → Bool
  | .ifThen .. => true
  | .ifElse _ _ _ alternate => alternate.isOpen
  | .while_ _ _ body | .for_ _ _ _ _ body => body.isOpen
  | _ => false

/-- The shapes of statements that the grammar knows. -/
inductive Stmt.Shaped : Stmt → Prop
  | declare {declaration : Declaration} (shaped : declaration.Shaped) (local_ : declaration.isStatic = false) :
      Shaped (.declare declaration)
  | evaluate (line : Nat) {expression : Expr} (shaped : expression.Shaped) : Shaped (.evaluate line expression)
  | block (line : Nat) {body : List Stmt} (inner : ∀ statement ∈ body, Shaped statement) : Shaped (.block line body)
  | ifThen (line : Nat) {test : Expr} {consequent : Stmt} (condition : test.Shaped) (first : Shaped consequent) :
      Shaped (.ifThen line test consequent)
  | ifElse (line : Nat) {test : Expr} {consequent alternate : Stmt} (condition : test.Shaped)
      (first : Shaped consequent) (closed : consequent.isOpen = false) (second : Shaped alternate) :
      Shaped (.ifElse line test consequent alternate)
  | while_ (line : Nat) {test : Expr} {body : Stmt} (condition : test.Shaped) (inner : Shaped body) :
      Shaped (.while_ line test body)
  | doWhile (line : Nat) {test : Expr} {body : Stmt} (condition : test.Shaped) (inner : Shaped body) :
      Shaped (.doWhile line test body)
  | for_ (line : Nat) {init : Option ForInit} {test update : Option Expr} {body : Stmt}
      (first : ∀ clause, init = some clause → clause.Shaped)
      (condition : ∀ expression, test = some expression → expression.Shaped)
      (last : ∀ expression, update = some expression → expression.Shaped) (inner : Shaped body) :
      Shaped (.for_ line init test update body)
  | return_ (line : Nat) {argument : Option Expr}
      (value : ∀ expression, argument = some expression → expression.Shaped) : Shaped (.return_ line argument)
  | break_ (line : Nat) : Shaped (.break_ line)
  | continue_ (line : Nat) : Shaped (.continue_ line)

structure Param.Shaped (param : Param) : Prop where
  typed : TypeName (fun kind => kind.isType = true ∧ kind ≠ .keyword .void) param.typeName
  named : (Word.named param.name).kind = .identifier

structure Method.Shaped (method : Method) : Prop where
  typed : TypeName (fun kind => kind.isType = true) method.returnType
  named : (Word.named method.name).kind = .identifier
  params : ∀ param ∈ method.params, param.Shaped
  body : ∀ statement ∈ method.body, statement.Shaped

inductive Member.Shaped : Member → Prop
  | method {declaration : Method} (shaped : declaration.Shaped) : Shaped (.method declaration)
  | field {declaration : Declaration} (shaped : declaration.Shaped) : Shaped (.field declaration)

structure ClassDecl.Shaped (decl : ClassDecl) : Prop where
  named : (Word.named decl.name).kind = .identifier
  body : ∀ member ∈ decl.body, member.Shaped

def Program.Shaped (program : Program) : Prop :=
  ∀ decl ∈ program.classes, decl.Shaped

end Stepwise
