import Stepwise.Token
import Stepwise.Text.Quoted

/-!
Complaints: what can be wrong with a source, each with its wording and, for some, a hint. A complaint is made by the
scanner or by the grammar, always about one line.
-/

namespace Stepwise

set_option autoImplicit false

/-- A place of the grammar where only one kind of token can stand. -/
inductive Expectation
  | className | classOpen | classClose
  | methodName | parametersOpen | parametersClose | parameterName
  | blockOpen | blockClose
  | ifOpen | ifClose | whileOpen | whileClose | doWhile | doEnd
  | forOpen | forCondition | forClose
  | returnEnd | breakEnd | continueEnd
  | variableName | declarationEnd | expressionEnd
  | conditionalColon
  | updateName (operator : String)
  | argumentsClose | memberName | indexClose | groupClose | sizeClose | arrayClose
  deriving DecidableEq, Repr

namespace Expectation

def kind : Expectation → TokenKind
  | className | methodName | parameterName | variableName | updateName _ | memberName => .identifier
  | classOpen | blockOpen => .symbol .leftBrace
  | classClose | blockClose | arrayClose => .symbol .rightBrace
  | parametersOpen | ifOpen | whileOpen | forOpen => .symbol .leftParen
  | parametersClose | ifClose | whileClose | forClose | argumentsClose | groupClose => .symbol .rightParen
  | doWhile => .keyword .while_
  | doEnd | forCondition | returnEnd | breakEnd | continueEnd | declarationEnd | expressionEnd =>
      .symbol .semicolon
  | conditionalColon => .symbol .colon
  | indexClose | sizeClose => .symbol .rightBracket

def message : Expectation → String
  | className => "Expected class name."
  | classOpen => "Expected '\x7b' after class name."
  | classClose => "Expected '\x7d' to close class body."
  | methodName => "Expected method name."
  | parametersOpen => "Expected '(' after method name."
  | parametersClose => "Expected ')' to close parameter list."
  | parameterName => "Expected param name."
  | blockOpen => "Expected '\x7b' to start a block."
  | blockClose => "Expected '\x7d' to close a block."
  | ifOpen => "Expected '(' after 'if'."
  | ifClose => "Expected ')' after if condition."
  | whileOpen => "Expected '(' after 'while'."
  | whileClose => "Expected ')' after while condition."
  | doWhile => "Expected 'while' after 'do' block."
  | doEnd => "Expected ';' after do-while statement."
  | forOpen => "Expected '(' after 'for'."
  | forCondition => "Expected ';' after for loop condition."
  | forClose => "Expected ')' after for loop clauses."
  | returnEnd => "Expected ';' after return statement."
  | breakEnd => "Expected ';' after break statement."
  | continueEnd => "Expected ';' after continue statement."
  | variableName => "Expected variable name."
  | declarationEnd => "Expected ';' after variable declaration."
  | expressionEnd => "Expected ';' after expression."
  | conditionalColon => "Expected ':' in conditional expression."
  | updateName operator => "Expected a variable name after prefix '" ++ operator ++ "'."
  | argumentsClose => "Expected ')' to close arguments."
  | memberName => "Expected member name after '.'."
  | indexClose => "Expected ']' for computed property."
  | groupClose => "Expected ')' to close grouped expression."
  | sizeClose => "Expected ']' after array size."
  | arrayClose => "Expected '\x7d' to close array literal."

end Expectation

inductive Complaint
  | unclosedComment
  | unclosedString
  | unclosedChar
  | emptyChar
  | unexpectedChar (char : Char)
  /-- Another token stands where only one kind can, given with its text if it is a keyword. -/
  | expected (place : Expectation) (keyword : Option String)
  | classExpected
  | openDirective (word : String)
  | memberExpected
  | parameterTypeExpected
  | unsupported (word : String)
  | nestedClass
  | declarationExpected
  | misplacedMethod
  | invalidTarget
  | unexpectedToken (value : String)
  | newTypeExpected
  | invalidNew
  | constructorArguments
  | initializerExpected (typeName : String)
  deriving DecidableEq, Repr

namespace Complaint

def isLexical : Complaint → Bool
  | unclosedComment | unclosedString | unclosedChar | emptyChar | unexpectedChar _ => true
  | _ => false

def message : Complaint → String
  | unclosedComment => "Unclosed block comment."
  | unclosedString => "Unclosed string literal."
  | unclosedChar => "Unclosed char literal."
  | emptyChar => "Empty character literal."
  | unexpectedChar char => "Unexpected character '" ++ String.ofList [char] ++ "'"
  | expected place _ => place.message
  | classExpected => "Expected a class declaration."
  | openDirective word => "Expected ';' after '" ++ word ++ "' directive."
  | memberExpected => "Expected a field or method declaration."
  | parameterTypeExpected => "Expected parameter type."
  | unsupported word => "'" ++ word ++ "' is not supported by this interpreter."
  | nestedClass => "Nested class declarations are not supported."
  | declarationExpected => "Expected a variable declaration after 'final'."
  | misplacedMethod => "Method declarations are only allowed inside a class body."
  | invalidTarget => "Invalid assignment target."
  | unexpectedToken value => "Unexpected token: " ++ Text.quoted value
  | newTypeExpected => "Expected class or type name after 'new'."
  | invalidNew => "Invalid 'new' expression."
  | constructorArguments => "Constructor arguments are not supported."
  | initializerExpected typeName => "Expected array initializer after 'new " ++ typeName ++ "[]'."

/-- Advice that goes with a complaint, decided by the token that was missed. -/
def hint : Complaint → Option String
  | expected place keyword =>
      match place.kind with
      | .symbol .semicolon => some "Statements and declarations must end with ';'."
      | .symbol .leftBrace => some "Blocks start with '\x7b'. A method header must be followed by a block."
      | .symbol .rightBrace =>
          some "Blocks end with '\x7d'. Check for a missing closing brace or an extra '\x7b' earlier."
      | .symbol .rightParen => some "Missing ')'. Check calls and conditions like: if (cond) \x7b ... \x7d"
      | .symbol .leftParen =>
          some "Missing '('. Conditions require parentheses like: while (i < n) \x7b ... \x7d"
      | .identifier => keyword.map fun word => "'" ++ word ++ "' is a keyword and can't be used as a name."
      | _ => none
  | _ => none

end Complaint

structure SourceError where
  complaint : Complaint
  line : Nat
  deriving DecidableEq, Repr

namespace SourceError

def message (error : SourceError) : String := error.complaint.message

def hint (error : SourceError) : Option String := error.complaint.hint

def text (error : SourceError) : String :=
  "Line " ++ toString error.line ++ ": " ++ error.message

end SourceError

end Stepwise
