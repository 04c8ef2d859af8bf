/-!
Tokens: keywords, symbols, names and literals, each with its text and the place where it starts. The value of a
string or character literal is the text between its quotes, escapes untouched; the value of a long literal leaves out
its suffix. Every token list of a source ends with one token that marks the end of the input.
-/

namespace Stepwise

set_option autoImplicit false

inductive Keyword
  | class_ | void | int | static | public_ | private_ | for_ | if_ | else_ | new_ | system | boolean | double
  | string | true_ | false_ | null_ | return_ | while_ | do_ | break_ | continue_ | char | long | this_
  | final | instanceof | switch | case | default_ | try_ | catch_ | finally_ | throw_
  deriving DecidableEq, Repr

namespace Keyword

def all : List Keyword :=
  [class_, void, int, static, public_, private_, for_, if_, else_, new_, system, boolean, double, string,
   true_, false_, null_, return_, while_, do_, break_, continue_, char, long, this_, final, instanceof,
   switch, case, default_, try_, catch_, finally_, throw_]

def spelling : Keyword → String
  | class_ => "class"
  | void => "void"
  | int => "int"
  | static => "static"
  | public_ => "public"
  | private_ => "private"
  | for_ => "for"
  | if_ => "if"
  | else_ => "else"
  | new_ => "new"
  | system => "System"
  | boolean => "boolean"
  | double => "double"
  | string => "String"
  | true_ => "true"
  | false_ => "false"
  | null_ => "null"
  | return_ => "return"
  | while_ => "while"
  | do_ => "do"
  | break_ => "break"
  | continue_ => "continue"
  | char => "char"
  | long => "long"
  | this_ => "this"
  | final => "final"
  | instanceof => "instanceof"
  | switch => "switch"
  | case => "case"
  | default_ => "default"
  | try_ => "try"
  | catch_ => "catch"
  | finally_ => "finally"
  | throw_ => "throw"

def label : Keyword → String
  | class_ => "CLASS"
  | void => "VOID"
  | int => "INT"
  | static => "STATIC"
  | public_ => "PUBLIC"
  | private_ => "PRIVATE"
  | for_ => "FOR"
  | if_ => "IF"
  | else_ => "ELSE"
  | new_ => "NEW"
  | system => "SYSTEM"
  | boolean => "BOOLEAN"
  | double => "DOUBLE"
  | string => "STRING"
  | true_ => "TRUE"
  | false_ => "FALSE"
  | null_ => "NULL"
  | return_ => "RETURN"
  | while_ => "WHILE"
  | do_ => "DO"
  | break_ => "BREAK"
  | continue_ => "CONTINUE"
  | char => "CHAR"
  | long => "LONG"
  | this_ => "THIS"
  | final => "FINAL"
  | instanceof => "INSTANCEOF"
  | switch => "SWITCH"
  | case => "CASE"
  | default_ => "DEFAULT"
  | try_ => "TRY"
  | catch_ => "CATCH"
  | finally_ => "FINALLY"
  | throw_ => "THROW"

def ofSpelling? (word : String) : Option Keyword :=
  all.find? fun keyword => keyword.spelling = word

end Keyword

inductive Symbol
  | assign | plus | minus | star | slash | percent | leftParen | rightParen | leftBrace | rightBrace
  | leftBracket | rightBracket | semicolon | comma | dot | greater | less | bang | question | colon | equal
  | notEqual | greaterEqual | lessEqual | plusPlus | minusMinus | plusAssign | minusAssign | starAssign
  | slashAssign | percentAssign | andAnd | orOr
  deriving DecidableEq, Repr

namespace Symbol

def all : List Symbol :=
  [assign, plus, minus, star, slash, percent, leftParen, rightParen, leftBrace, rightBrace, leftBracket,
   rightBracket, semicolon, comma, dot, greater, less, bang, question, colon, equal, notEqual, greaterEqual,
   lessEqual, plusPlus, minusMinus, plusAssign, minusAssign, starAssign, slashAssign, percentAssign, andAnd,
   orOr]

def spelling : Symbol → String
  | assign => "="
  | plus => "+"
  | minus => "-"
  | star => "*"
  | slash => "/"
  | percent => "%"
  | leftParen => "("
  | rightParen => ")"
  | leftBrace => "\x7b"
  | rightBrace => "\x7d"
  | leftBracket => "["
  | rightBracket => "]"
  | semicolon => ";"
  | comma => ","
  | dot => "."
  | greater => ">"
  | less => "<"
  | bang => "!"
  | question => "?"
  | colon => ":"
  | equal => "=="
  | notEqual => "!="
  | greaterEqual => ">="
  | lessEqual => "<="
  | plusPlus => "++"
  | minusMinus => "--"
  | plusAssign => "+="
  | minusAssign => "-="
  | starAssign => "*="
  | slashAssign => "/="
  | percentAssign => "%="
  | andAnd => "&&"
  | orOr => "||"

def label : Symbol → String
  | assign => "ASSIGN"
  | plus => "PLUS"
  | minus => "MINUS"
  | star => "STAR"
  | slash => "SLASH"
  | percent => "PERCENT"
  | leftParen => "LPAREN"
  | rightParen => "RPAREN"
  | leftBrace => "LBRACE"
  | rightBrace => "RBRACE"
  | leftBracket => "LBRACKET"
  | rightBracket => "RBRACKET"
  | semicolon => "SEMI"
  | comma => "COMMA"
  | dot => "DOT"
  | greater => "GT"
  | less => "LT"
  | bang => "BANG"
  | question => "QUESTION"
  | colon => "COLON"
  | equal => "EQ"
  | notEqual => "NEQ"
  | greaterEqual => "GTE"
  | lessEqual => "LTE"
  | plusPlus => "PLUS_PLUS"
  | minusMinus => "MINUS_MINUS"
  | plusAssign => "PLUS_ASSIGN"
  | minusAssign => "MINUS_ASSIGN"
  | starAssign => "STAR_ASSIGN"
  | slashAssign => "SLASH_ASSIGN"
  | percentAssign => "PERCENT_ASSIGN"
  | andAnd => "AND_AND"
  | orOr => "OR_OR"

def ofChars? (chars : List Char) : Option Symbol :=
  all.find? fun symbol => symbol.spelling.toList = chars

end Symbol

inductive TokenKind
  | keyword (word : Keyword)
  | symbol (mark : Symbol)
  | identifier | integerLiteral | longLiteral | doubleLiteral | stringLiteral | charLiteral
  | endOfInput
  deriving DecidableEq, Repr

namespace TokenKind

def all : List TokenKind :=
  Keyword.all.map keyword ++ Symbol.all.map symbol ++
    [identifier, integerLiteral, longLiteral, doubleLiteral, stringLiteral, charLiteral, endOfInput]

def label : TokenKind → String
  | keyword word => word.label
  | symbol mark => mark.label
  | identifier => "IDENT"
  | integerLiteral => "INTEGER_LITERAL"
  | longLiteral => "LONG_LITERAL"
  | doubleLiteral => "DOUBLE_LITERAL"
  | stringLiteral => "STRING_LITERAL"
  | charLiteral => "CHAR_LITERAL"
  | endOfInput => "EOF"

def ofLabel? (name : String) : Option TokenKind :=
  all.find? fun kind => kind.label = name

def isKeyword : TokenKind → Bool
  | keyword _ => true
  | _ => false

end TokenKind

structure Token where
  kind : TokenKind
  value : String
  line : Nat
  column : Nat
  deriving DecidableEq, Repr

namespace Token

def isEnd (token : Token) : Bool :=
  token.kind = .endOfInput

/-- The source text of a token, the one that marks the end apart. A long literal may also end in a small letter. -/
def spelling (token : Token) : List Char :=
  match token.kind with
  | .stringLiteral => '"' :: (token.value.toList ++ ['"'])
  | .charLiteral => '\'' :: (token.value.toList ++ ['\''])
  | .longLiteral => token.value.toList ++ ['L']
  | .endOfInput => []
  | _ => token.value.toList

end Token

structure Position where
  line : Nat
  column : Nat
  deriving DecidableEq, Repr

namespace Position

def start : Position := { line := 1, column := 1 }

def next (position : Position) (char : Char) : Position :=
  if char = '\n' then { line := position.line + 1, column := 1 }
  else { position with column := position.column + 1 }

def after (position : Position) (chars : List Char) : Position :=
  chars.foldl next position

end Position

/-- What a listing shows of each token: the kind's name, the value and the line. The end is left out. -/
def describeTokens (tokens : List Token) : List (String × String × Nat) :=
  (tokens.filter fun token => !token.isEnd).map fun token => (token.kind.label, token.value, token.line)

end Stepwise
