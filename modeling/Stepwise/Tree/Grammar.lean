import Stepwise.Tree.Expression

/-!
The grammar of statements, members and classes. Whether a statement declares a variable is decided by looking at most
four tokens ahead, without taking any. Directives in front of classes are skipped up to their semicolon, and
modifiers matter only for fields, where one of them makes the field static.
-/

namespace Stepwise

set_option autoImplicit false

def TokenKind.isModifier : TokenKind → Bool
  | keyword .public_ | keyword .private_ | keyword .static | keyword .final => true
  | _ => false

inductive Shape
  | variable | method
  deriving DecidableEq, Repr

/-- Classifies the tokens under the cursor: a type, perhaps with a pair of brackets, then a name, then for a method
an opening parenthesis. -/
def Cursor.shape? (cursor : Cursor) : Option Shape :=
  if !cursor.current.kind.isType then none
  else
    let kindAhead := fun distance => (cursor.ahead distance).kind
    let classify := fun distance =>
      some (if kindAhead distance = .symbol .leftParen then Shape.method else Shape.variable)
    if kindAhead 1 = .identifier then classify 2
    else if kindAhead 1 = .symbol .leftBracket && kindAhead 2 = .symbol .rightBracket &&
        kindAhead 3 = .identifier then classify 4
    else none

namespace Reader

def shape? : Reader (Option Shape) := do
  return (← get).shape?

/-- Reads a type name. A bracket belongs to it only when it is closed at once. -/
def typeName : Reader String := do
  let token ← advance
  let cursor ← get
  if cursor.current.kind = .symbol .leftBracket && (cursor.ahead 1).kind = .symbol .rightBracket then
    let _ ← advance
    let _ ← advance
    return token.value ++ "[]"
  else return token.value

/-- Reads the declaration of a variable, which is not static by itself. -/
def declaration : Reader Declaration := do
  let start ← current
  let type ← typeName
  let name ← expect .variableName
  let value ← if ← accept (.symbol .assign) then some <$> expression else pure none
  let _ ← expect .declarationEnd
  return { line := start.line, typeName := type, name := name.value, value, isStatic := false }

def evaluation : Reader (Nat × Expr) := do
  let value ← expression
  let _ ← expect .expressionEnd
  return (value.line, value)

def expressionUnless (kind : TokenKind) : Reader (Option Expr) := do
  if ← at? kind then return none else some <$> expression

def forInit : Reader (Option ForInit) := do
  if ← accept (.symbol .semicolon) then return none
  else if (← shape?) = some .variable then
    let declared ← declaration
    return some (.declare declared)
  else
    let (line, value) ← evaluation
    return some (.evaluate line value)

def condition (open_ close : Expectation) : Reader Expr := do
  let _ ← expect open_
  let test ← expression
  let _ ← expect close
  return test

mutual

def statement : Nat → Reader Stmt
  | 0 => reject .exhausted
  | fuel + 1 => do
      let token ← current
      match token.kind with
      | .keyword .class_ => complain .nestedClass token
      | .keyword .if_ =>
          let _ ← advance
          let test ← condition .ifOpen .ifClose
          let consequent ← statement fuel
          if ← accept (.keyword .else_) then
            let alternate ← statement fuel
            return .ifElse token.line test consequent alternate
          else return .ifThen token.line test consequent
      | .keyword .while_ =>
          let _ ← advance
          let test ← condition .whileOpen .whileClose
          let body ← statement fuel
          return .while_ token.line test body
      | .keyword .do_ =>
          let _ ← advance
          let body ← statement fuel
          let _ ← expect .doWhile
          let test ← condition .whileOpen .whileClose
          let _ ← expect .doEnd
          return .doWhile token.line test body
      | .keyword .for_ =>
          let _ ← advance
          let _ ← expect .forOpen
          let init ← forInit
          let test ← expressionUnless (.symbol .semicolon)
          let _ ← expect .forCondition
          let update ← expressionUnless (.symbol .rightParen)
          let _ ← expect .forClose
          let body ← statement fuel
          return .for_ token.line init test update body
      | .keyword .return_ =>
          let _ ← advance
          let argument ← expressionUnless (.symbol .semicolon)
          let _ ← expect .returnEnd
          return .return_ token.line argument
      | .keyword .break_ =>
          let _ ← advance
          let _ ← expect .breakEnd
          return .break_ token.line
      | .keyword .continue_ =>
          let _ ← advance
          let _ ← expect .continueEnd
          return .continue_ token.line
      | .symbol .leftBrace =>
          let body ← block fuel
          return .block token.line body
      | .symbol .semicolon =>
          let _ ← advance
          return .block token.line []
      | .keyword .final =>
          let _ ← advance
          if (← shape?) ≠ some .variable then complain .declarationExpected (← current)
          .declare <$> declaration
      | kind =>
          if kind.isUnsupported then complain (.unsupported token.value) token
          match ← shape? with
          | some .method => complain .misplacedMethod token
          | some .variable => .declare <$> declaration
          | none =>
              let (line, value) ← evaluation
              return .evaluate line value

def block : Nat → Reader (List Stmt)
  | 0 => reject .exhausted
  | fuel + 1 => do
      let _ ← expect .blockOpen
      let body ← statements fuel
      let _ ← expect .blockClose
      return body

def statements : Nat → Reader (List Stmt)
  | 0 => reject .exhausted
  | fuel + 1 => do
      let token ← current
      if token.kind = .symbol .rightBrace || token.isEnd then return []
      else
        let first ← statement fuel
        let others ← statements fuel
        return first :: others

end

def param : Reader Param := do
  let _ ← accept (.keyword .final)
  let start ← current
  if !start.kind.isType || start.kind = .keyword .void then complain .parameterTypeExpected start
  let type ← typeName
  let name ← expect .parameterName
  return { line := start.line, typeName := type, name := name.value }

def params : Nat → Reader (List Param)
  | 0 => reject .exhausted
  | fuel + 1 => do
      let first ← param
      if ← accept (.symbol .comma) then
        let others ← params fuel
        return first :: others
      else return [first]

def method (fuel : Nat) : Reader Method := do
  let start ← current
  let returnType ← typeName
  let name ← expect .methodName
  let _ ← expect .parametersOpen
  let parameters ← if ← at? (.symbol .rightParen) then pure [] else params fuel
  let _ ← expect .parametersClose
  let body ← block fuel
  return { line := start.line, returnType, name := name.value, params := parameters, body }

/-- Takes modifiers and tells whether one of them makes a field static. -/
def modifiers : Nat → Reader Bool
  | 0 => reject .exhausted
  | fuel + 1 => do
      let token ← current
      if token.kind.isModifier then
        let _ ← advance
        let others ← modifiers fuel
        return token.kind = .keyword .static || others
      else return false

def members : Nat → Reader (List Member)
  | 0 => reject .exhausted
  | fuel + 1 => do
      let token ← current
      if token.kind = .symbol .rightBrace || token.isEnd then return []
      else
        let isStatic ← modifiers fuel
        match ← shape? with
        | some .method =>
            let first ← method fuel
            let others ← members fuel
            return .method first :: others
        | some .variable =>
            let first ← declaration
            let others ← members fuel
            return .field { first with isStatic } :: others
        | none => complain .memberExpected (← current)

def classDecl (fuel : Nat) : Reader ClassDecl := do
  let start ← advance
  let name ← expect .className
  let _ ← expect .classOpen
  let body ← members fuel
  let _ ← expect .classClose
  return { line := start.line, name := name.value, body }

/-- Skips the rest of a directive with its semicolon. -/
def directive (word : String) : Nat → Reader Unit
  | 0 => reject .exhausted
  | fuel + 1 => do
      let token ← current
      if token.kind = .symbol .semicolon then
        let _ ← advance
      else if token.isEnd then complain (.openDirective word) token
      else
        let _ ← advance
        directive word fuel

def classes : Nat → Reader (List ClassDecl)
  | 0 => reject .exhausted
  | fuel + 1 => do
      let token ← current
      if token.isEnd then return []
      else if token.kind = .identifier && (token.value = "import" || token.value = "package") then
        let _ ← advance
        directive token.value fuel
        classes fuel
      else
        let _ ← modifiers fuel
        let start ← current
        if start.kind ≠ .keyword .class_ then complain .classExpected start
        let first ← classDecl fuel
        let others ← classes fuel
        return first :: others

/-- Reads a program. Above the level of expressions three calls take at least one token, so four for each token are
enough. -/
def program : Reader Program := do
  let cursor ← get
  let decls ← classes (4 * cursor.rest.length + 8)
  return { classes := decls }

end Reader

namespace Program

def start? (tokens : List Token) : Option Cursor :=
  match tokens with
  | [] => none
  | first :: rest => if (rest.getLastD first).isEnd then some { current := first, rest } else none

def ofTokens (tokens : List Token) : Except Rejection Program :=
  match start? tokens with
  | none => .error .unterminated
  | some cursor =>
      match Reader.program.run cursor with
      | .ok program _ => .ok program
      | .error rejection _ => .error rejection

end Program

end Stepwise
