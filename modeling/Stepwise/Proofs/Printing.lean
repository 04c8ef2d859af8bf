import Stepwise.Proofs.Erasure
import Stepwise.Tree.Grammar

/-!
# Printing

A tree is printed as the kinds and texts of its tokens. An expression has a rank, by how tightly its outermost operator
binds, and a place in another expression asks for a least rank; an expression of a lower rank is put between
parentheses there. Numbers are printed by a spelling, which is given.

The ranks are those of the documentation, from the loosest: assignment, conditional, the five levels of operators
between two operands, prefix operators, and calls, accesses and everything that stands by itself. They are stated here
by the texts of the operators, apart from the tables by which the reader recognises them.
-/

namespace Stepwise

set_option autoImplicit false

/-- What the grammar sees of a token. -/
structure Word where
  kind : TokenKind
  value : String
  deriving DecidableEq, Repr

def Token.word (token : Token) : Word :=
  { kind := token.kind, value := token.value }

namespace Word

def token (word : Word) : Token :=
  { kind := word.kind, value := word.value, line := 1, column := 1 }

def keyword (word : Keyword) : Word :=
  { kind := .keyword word, value := word.spelling }

def symbol (mark : Symbol) : Word :=
  { kind := .symbol mark, value := mark.spelling }

def named (text : String) : Word :=
  match Keyword.ofSpelling? text with
  | some word => { kind := .keyword word, value := text }
  | none => { kind := .identifier, value := text }

def operator (text : String) : Word :=
  match Symbol.ofChars? text.toList with
  | some mark => { kind := .symbol mark, value := text }
  | none => { kind := .identifier, value := text }

@[simp] theorem value_named (text : String) : (named text).value = text := by
  unfold named
  split <;> rfl

@[simp] theorem value_operator (text : String) : (operator text).value = text := by
  unfold operator
  split <;> rfl

theorem named_ne_end (text : String) : (named text).kind ≠ .endOfInput := by
  unfold named
  split <;> nofun

theorem operator_ne_end (text : String) : (operator text).kind ≠ .endOfInput := by
  unfold operator
  split <;> nofun

end Word

/-- How numbers are spelled: a number that some text is read as is read from its spelling too. -/
structure Spelling where
  int : Int → String
  double : Float → String
  readInteger_int : ∀ {text value}, Number.readInteger text = .ok value → Number.readInteger (int value) = .ok value
  readDouble_double : ∀ {text value}, Number.readDouble text = .ok value → Number.readDouble (double value) = .ok value

namespace Spelling

/-- A number is spelled by one of the texts that it is read from. -/
noncomputable def chosen : Spelling where
  int value := Classical.epsilon fun text => Number.readInteger text = .ok value
  double value := Classical.epsilon fun text => Number.readDouble text = .ok value
  readInteger_int {text value} spelled :=
    Classical.epsilon_spec (p := fun text => Number.readInteger text = .ok value) ⟨text, spelled⟩
  readDouble_double {text value} spelled :=
    Classical.epsilon_spec (p := fun text => Number.readDouble text = .ok value) ⟨text, spelled⟩

end Spelling

def Level.ofOperator? : String → Option Level
  | "||" => some .disjunction
  | "&&" => some .conjunction
  | "<" | ">" | "<=" | ">=" | "==" | "!=" => some .comparison
  | "+" | "-" => some .sum
  | "*" | "/" | "%" => some .product
  | _ => none

/-- How tightly the outermost operator of an expression binds. -/
inductive Rank
  | assignment
  | conditional
  | operation (level : Level)
  | unary
  | access
  deriving DecidableEq, Repr

namespace Rank

def height : Rank → Nat
  | assignment => 1
  | conditional => 2
  | operation .disjunction => 3
  | operation .conjunction => 4
  | operation .comparison => 5
  | operation .sum => 6
  | operation .product => 7
  | unary => 8
  | access => 9

def next : Rank → Rank
  | assignment => conditional
  | conditional => operation .disjunction
  | operation .disjunction => operation .conjunction
  | operation .conjunction => operation .comparison
  | operation .comparison => operation .sum
  | operation .sum => operation .product
  | operation .product => unary
  | unary => access
  | access => access

def ofOperator (text : String) : Rank :=
  match Level.ofOperator? text with
  | some level => operation level
  | none => access

end Rank

def Expr.rank : Expr → Rank
  | .assign .. | .compound .. => .assignment
  | .conditional .. => .conditional
  | .binary _ _ operator _ | .logical _ _ operator _ => .ofOperator operator
  | .unary .. | .update _ .before .. => .unary
  | _ => .access

/-- An expression, given with its words, at a place that asks for a rank. -/
def Expr.placed (required : Rank) (expression : Expr) (words : List Word) : List Word :=
  if expression.rank.height < required.height then
    Word.symbol .leftParen :: (words ++ [Word.symbol .rightParen])
  else words

mutual

/-- The words of an expression. An array literal is printed with its type. -/
def Expr.words (spelling : Spelling) : Expr → List Word
  | .int _ value => [{ kind := .integerLiteral, value := spelling.int value }]
  | .double _ value => [{ kind := .doubleLiteral, value := spelling.double value }]
  | .bool _ value => [.keyword (if value then .true_ else .false_)]
  | .string _ raw => [{ kind := .stringLiteral, value := raw }]
  | .char _ raw => [{ kind := .charLiteral, value := raw }]
  | .null _ => [.keyword .null_]
  | .name _ symbol => [.named symbol]
  | .binary _ left operator right | .logical _ left operator right =>
      left.placed (.ofOperator operator) (left.words spelling) ++
        .operator operator :: right.placed (Rank.ofOperator operator).next (right.words spelling)
  | .unary _ operator argument => .operator operator :: argument.placed .unary (argument.words spelling)
  | .conditional _ test consequent alternate =>
      test.placed (.operation .disjunction) (test.words spelling) ++
        .symbol .question :: (consequent.placed .assignment (consequent.words spelling) ++
          .symbol .colon :: alternate.placed .conditional (alternate.words spelling))
  | .assign _ target value =>
      target.placed .conditional (target.words spelling) ++
        .symbol .assign :: value.placed .assignment (value.words spelling)
  | .compound _ target operator value =>
      target.placed .conditional (target.words spelling) ++
        .operator operator :: value.placed .assignment (value.words spelling)
  | .field _ object _ symbol => object.placed .access (object.words spelling) ++ [.symbol .dot, .named symbol]
  | .index _ object position =>
      object.placed .access (object.words spelling) ++
        .symbol .leftBracket :: (position.placed .assignment (position.words spelling) ++ [.symbol .rightBracket])
  | .call _ callee arguments =>
      callee.placed .access (callee.words spelling) ++
        .symbol .leftParen :: (Expr.listed spelling arguments ++ [.symbol .rightParen])
  | .create _ className => [.keyword .new_, .named className, .symbol .leftParen, .symbol .rightParen]
  | .newArray _ elementType size =>
      .keyword .new_ :: .named elementType :: .symbol .leftBracket ::
        (size.placed .assignment (size.words spelling) ++ [.symbol .rightBracket])
  | .arrayOf _ elementType values =>
      .keyword .new_ :: .named elementType :: .symbol .leftBracket :: .symbol .rightBracket :: .symbol .leftBrace ::
        (Expr.listed spelling values ++ [.symbol .rightBrace])
  | .update _ .before operator _ symbol => [.operator operator, .named symbol]
  | .update _ .after operator _ symbol => [.named symbol, .operator operator]

def Expr.listed (spelling : Spelling) : List Expr → List Word
  | [] => []
  | [expression] => expression.placed .assignment (expression.words spelling)
  | expression :: others =>
      expression.placed .assignment (expression.words spelling) ++ .symbol .comma :: Expr.listed spelling others

end

/-- The shapes of expressions that the grammar knows. A number is one that some text is read as. -/
inductive Expr.Shaped : Expr → Prop
  | int (line : Nat) {text : String} {value : Int} (spelled : Number.readInteger text = .ok value) :
      Shaped (.int line value)
  | double (line : Nat) {text : String} {value : Float} (spelled : Number.readDouble text = .ok value) :
      Shaped (.double line value)
  | bool (line : Nat) (value : Bool) : Shaped (.bool line value)
  | string (line : Nat) (raw : String) : Shaped (.string line raw)
  | char (line : Nat) (raw : String) : Shaped (.char line raw)
  | null (line : Nat) : Shaped (.null line)
  | name (line : Nat) {symbol : String}
      (kind : (Word.named symbol).kind = .identifier ∨ (Word.named symbol).kind = .keyword .system) :
      Shaped (.name line symbol)
  | binary (line : Nat) {level : Level} {left right : Expr} {operator : String}
      (ranked : Level.ofOperator? operator = some level) (joins : level ≠ .disjunction ∧ level ≠ .conjunction)
      (first : Shaped left) (second : Shaped right) :
      Shaped (.binary line left operator right)
  | logical (line : Nat) {level : Level} {left right : Expr} {operator : String}
      (ranked : Level.ofOperator? operator = some level) (joins : level = .disjunction ∨ level = .conjunction)
      (first : Shaped left) (second : Shaped right) :
      Shaped (.logical line left operator right)
  | unary (line : Nat) {operator : String} {argument : Expr} (prefixed : operator ∈ ["!", "-"])
      (inner : Shaped argument) : Shaped (.unary line operator argument)
  | conditional (line : Nat) {test consequent alternate : Expr} (condition : Shaped test)
      (first : Shaped consequent) (second : Shaped alternate) :
      Shaped (.conditional line test consequent alternate)
  | assign (line : Nat) {target value : Expr} (targeted : target.isTarget = true) (located : Shaped target)
      (evaluated : Shaped value) : Shaped (.assign line target value)
  | compound (line : Nat) {target value : Expr} {operator : String} (targeted : target.isTarget = true)
      (combines : operator ∈ ["+=", "-=", "*=", "/=", "%="]) (located : Shaped target)
      (evaluated : Shaped value) : Shaped (.compound line target operator value)
  | field (line nameLine : Nat) {object : Expr} {name : String} (kind : (Word.named name).kind = .identifier)
      (inner : Shaped object) : Shaped (.field line object nameLine name)
  | index (line : Nat) {object position : Expr} (container : Shaped object)
      (number : Shaped position) : Shaped (.index line object position)
  | call (line : Nat) {callee : Expr} {arguments : List Expr} (called : Shaped callee)
      (passed : ∀ argument ∈ arguments, Shaped argument) : Shaped (.call line callee arguments)
  | create (line : Nat) {className : String} (kind : (Word.named className).kind = .identifier) :
      Shaped (.create line className)
  | newArray (line : Nat) {elementType : String} {size : Expr} (typed : (Word.named elementType).kind.isType = true)
      (solid : elementType ≠ "void") (sized : Shaped size) :
      Shaped (.newArray line elementType size)
  | arrayOf (line : Nat) {elementType : String} {values : List Expr}
      (typed : (Word.named elementType).kind.isType = true) (solid : elementType ≠ "void")
      (inner : ∀ value ∈ values, Shaped value) : Shaped (.arrayOf line elementType values)
  | update (line nameLine : Nat) (form : UpdateForm) {operator name : String} (steps : operator ∈ ["++", "--"])
      (kind : (Word.named name).kind = .identifier) : Shaped (.update line form operator nameLine name)

end Stepwise
