import Stepwise.Tree
import Stepwise.Tree.Cursor
import Stepwise.Number.Literal

/-!
The grammar of expressions. From the loosest binding to the tightest: assignment, conditional, the five levels of
operators between two operands, prefix operators, calls and member accesses, and primary expressions. Assignment and
the conditional group to the right, the operators between two operands to the left.

Every function takes a bound on the depth of its calls. Reading takes a token at least once in every ten calls, so
sixteen calls for each token are enough.
-/

namespace Stepwise

set_option autoImplicit false

namespace TokenKind

def isType : TokenKind → Bool
  | keyword .int | keyword .double | keyword .boolean | keyword .char | keyword .long | keyword .void
  | keyword .string | identifier => true
  | _ => false

/-- Keywords that no rule of the grammar uses. -/
def isUnsupported : TokenKind → Bool
  | keyword .switch | keyword .case | keyword .default_ | keyword .try_ | keyword .catch_ | keyword .finally_
  | keyword .throw_ | keyword .this_ | keyword .instanceof => true
  | _ => false

def isCompoundAssignment : TokenKind → Bool
  | symbol .plusAssign | symbol .minusAssign | symbol .starAssign | symbol .slashAssign
  | symbol .percentAssign => true
  | _ => false

def isUpdate : TokenKind → Bool
  | symbol .plusPlus | symbol .minusMinus => true
  | _ => false

end TokenKind

inductive Level
  | disjunction | conjunction | comparison | sum | product
  deriving DecidableEq, Repr

namespace Level

def tighter : Level → Option Level
  | disjunction => some conjunction
  | conjunction => some comparison
  | comparison => some sum
  | sum => some product
  | product => none

def holds : Level → TokenKind → Bool
  | disjunction, .symbol .orOr => true
  | conjunction, .symbol .andAnd => true
  | comparison, .symbol .greater | comparison, .symbol .less | comparison, .symbol .greaterEqual
  | comparison, .symbol .lessEqual | comparison, .symbol .equal | comparison, .symbol .notEqual => true
  | sum, .symbol .plus | sum, .symbol .minus => true
  | product, .symbol .star | product, .symbol .slash | product, .symbol .percent => true
  | _, _ => false

/-- The node for an operator of a level. It has the line of its left operand. -/
def node : Level → Expr → String → Expr → Expr
  | disjunction, left, operator, right => .logical left.line left operator right
  | conjunction, left, operator, right => .logical left.line left operator right
  | _, left, operator, right => .binary left.line left operator right

end Level

def Expr.isTarget : Expr → Bool
  | name .. | field .. | index .. => true
  | _ => false

namespace Reader

/-- Complains about an assignment operator whose left side cannot be assigned to. -/
def requireTarget (target : Expr) (operator : Token) : Reader Unit :=
  if target.isTarget then pure () else complain .invalidTarget operator

mutual

def assignment : Nat → Reader Expr
  | 0 => reject .exhausted
  | fuel + 1 => do
      let left ← conditional fuel
      let operator ← current
      if operator.kind = .symbol .assign then
        let _ ← advance
        requireTarget left operator
        let value ← assignment fuel
        return .assign left.line left value
      else if operator.kind.isCompoundAssignment then
        let _ ← advance
        requireTarget left operator
        let value ← assignment fuel
        return .compound left.line left operator.value value
      else return left

def conditional : Nat → Reader Expr
  | 0 => reject .exhausted
  | fuel + 1 => do
      let test ← operation fuel .disjunction
      if ← accept (.symbol .question) then
        let consequent ← assignment fuel
        let _ ← expect .conditionalColon
        let alternate ← conditional fuel
        return .conditional test.line test consequent alternate
      else return test

/-- Reads operands of the next level with operators of this level between them. -/
def operation : Nat → Level → Reader Expr
  | 0, _ => reject .exhausted
  | fuel + 1, level => do
      let left ←
        match level.tighter with
        | some tighter => operation fuel tighter
        | none => unary fuel
      operationRest fuel level left

def operationRest : Nat → Level → Expr → Reader Expr
  | 0, _, _ => reject .exhausted
  | fuel + 1, level, left => do
      let operator ← current
      if level.holds operator.kind then
        let _ ← advance
        let right ←
          match level.tighter with
          | some tighter => operation fuel tighter
          | none => unary fuel
        operationRest fuel level (level.node left operator.value right)
      else return left

def unary : Nat → Reader Expr
  | 0 => reject .exhausted
  | fuel + 1 => do
      let operator ← current
      if operator.kind = .symbol .bang || operator.kind = .symbol .minus then
        let _ ← advance
        let argument ← unary fuel
        return .unary operator.line operator.value argument
      else if operator.kind.isUpdate then
        let _ ← advance
        let name ← expect (.updateName operator.value)
        return .update operator.line .before operator.value name.line name.value
      else
        let head ← primary fuel
        accesses fuel head

/-- Reads calls and member accesses behind an expression. -/
def accesses : Nat → Expr → Reader Expr
  | 0, _ => reject .exhausted
  | fuel + 1, head => do
      if ← accept (.symbol .leftParen) then
        let arguments ← if ← at? (.symbol .rightParen) then pure [] else expressions fuel
        let _ ← expect .argumentsClose
        accesses fuel (.call head.line head arguments)
      else if ← accept (.symbol .dot) then
        let name ← expect .memberName
        accesses fuel (.field head.line head name.line name.value)
      else if ← accept (.symbol .leftBracket) then
        let position ← assignment fuel
        let _ ← expect .indexClose
        accesses fuel (.index head.line head position)
      else return head

def expressions : Nat → Reader (List Expr)
  | 0 => reject .exhausted
  | fuel + 1 => do
      let first ← assignment fuel
      if ← accept (.symbol .comma) then
        let others ← expressions fuel
        return first :: others
      else return [first]

/-- Reads the values of an array literal, where a comma may stand behind the last. -/
def arrayValues : Nat → Reader (List Expr)
  | 0 => reject .exhausted
  | fuel + 1 => do
      let first ← assignment fuel
      if ← accept (.symbol .comma) then
        if ← at? (.symbol .rightBrace) then return [first]
        else
          let others ← arrayValues fuel
          return first :: others
      else return [first]

def arrayLiteral : Nat → Reader (Nat × List Expr)
  | 0 => reject .exhausted
  | fuel + 1 => do
      let brace ← advance
      let values ← if ← at? (.symbol .rightBrace) then pure [] else arrayValues fuel
      let _ ← expect .arrayClose
      return (brace.line, values)

def creation : Nat → Reader Expr
  | 0 => reject .exhausted
  | fuel + 1 => do
      let start ← advance
      let typeToken ← current
      if !typeToken.kind.isType || typeToken.kind = .keyword .void then complain .newTypeExpected typeToken
      let _ ← advance
      if ← accept (.symbol .leftParen) then
        if typeToken.kind ≠ .identifier then complain .invalidNew start
        let close ← current
        if close.kind ≠ .symbol .rightParen then complain .constructorArguments close
        let _ ← advance
        return .create start.line typeToken.value
      else if ← accept (.symbol .leftBracket) then
        if ← accept (.symbol .rightBracket) then
          let brace ← current
          if brace.kind ≠ .symbol .leftBrace then complain (.initializerExpected typeToken.value) brace
          let (_, values) ← arrayLiteral fuel
          return .arrayOf start.line typeToken.value values
        else
          let size ← assignment fuel
          let _ ← expect .sizeClose
          return .newArray start.line typeToken.value size
      else complain .invalidNew start

def primary : Nat → Reader Expr
  | 0 => reject .exhausted
  | fuel + 1 => do
      let token ← current
      match token.kind with
      | .identifier =>
          let _ ← advance
          let operator ← current
          if operator.kind.isUpdate then
            let _ ← advance
            return .update token.line .after operator.value token.line token.value
          else return .name token.line token.value
      | .keyword .system =>
          let _ ← advance
          return .name token.line token.value
      | .integerLiteral | .longLiteral =>
          let _ ← advance
          let value ← literal (Number.readInteger token.value)
          return .int token.line value
      | .doubleLiteral =>
          let _ ← advance
          let value ← literal (Number.readDouble token.value)
          return .double token.line value
      | .stringLiteral =>
          let _ ← advance
          return .string token.line token.value
      | .charLiteral =>
          let _ ← advance
          return .char token.line token.value
      | .keyword .true_ =>
          let _ ← advance
          return .bool token.line true
      | .keyword .false_ =>
          let _ ← advance
          return .bool token.line false
      | .keyword .null_ =>
          let _ ← advance
          return .null token.line
      | .keyword .new_ => creation fuel
      | .symbol .leftBrace =>
          let (line, values) ← arrayLiteral fuel
          return .arrayOf line "int" values
      | .symbol .leftParen =>
          let _ ← advance
          let inner ← assignment fuel
          let _ ← expect .groupClose
          return inner
      | kind =>
          if kind.isUnsupported then complain (.unsupported token.value) token
          else complain (.unexpectedToken token.value) token

end

def expression : Reader Expr := do
  let cursor ← get
  assignment (16 * cursor.rest.length + 16)

end Reader

end Stepwise
