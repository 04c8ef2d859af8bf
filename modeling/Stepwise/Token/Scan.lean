import Stepwise.Complaint
import Stepwise.Text.Digit

/-!
Scanning: from characters to tokens. One step looks at the first character of what is left and takes either a piece
of the gap between tokens (a blank, a comment) or a token; it reports how many further characters it took, so that the
rest is always shorter. Where several symbols fit, the longer one is taken.
-/

namespace Stepwise.Scan

set_option autoImplicit false

/-- What one step takes: a piece of a gap, or a token given by kind and value. -/
inductive Piece
  | gap
  | token (kind : TokenKind) (value : String)
  deriving DecidableEq, Repr

def isSpace (char : Char) : Bool :=
  char = ' ' || char = '\t' || char = '\r' || char = '\x0c' || char = '\n'

def isNameStart (char : Char) : Bool :=
  Text.isLetter char || char = '_'

def isNamePart (char : Char) : Bool :=
  Text.isNameChar char || char = '_'

/-- The number of characters up to and including the end of a block comment, if it has one. -/
def commentLength? : List Char → Option Nat
  | '*' :: '/' :: _ => some 2
  | _ :: rest => (commentLength? rest).map (· + 1)
  | [] => none

/-- The characters before the quote that closes a string literal, if there is one. A backslash keeps the character
behind it from closing the literal. -/
def stringBody? : List Char → Option (List Char)
  | [] => none
  | '"' :: _ => some []
  | '\\' :: char :: rest => (stringBody? rest).map fun body => '\\' :: char :: body
  | char :: rest => (stringBody? rest).map (char :: ·)

def charBody : List Char → Except Complaint (List Char)
  | [] => .error .unclosedChar
  | '\n' :: _ => .error .unclosedChar
  | '\'' :: _ => .error .emptyChar
  | '\\' :: char :: '\'' :: _ => .ok ['\\', char]
  | '\\' :: _ => .error .unclosedChar
  | char :: '\'' :: _ => .ok [char]
  | _ :: _ => .error .unclosedChar

/-- A numeral: digits, and at most one point with further digits behind it. -/
def numeral (chars : List Char) : List Char × Bool :=
  let whole := chars.takeWhile Text.isDigit
  match chars.dropWhile Text.isDigit with
  | '.' :: rest => (whole ++ '.' :: rest.takeWhile Text.isDigit, true)
  | _ => (whole, false)

def nameToken (chars : List Char) : Piece × Nat :=
  let word := chars.takeWhile isNamePart
  let kind :=
    match Keyword.ofSpelling? (String.ofList word) with
    | some keyword => .keyword keyword
    | none => .identifier
  (.token kind (String.ofList word), word.length)

/-- A number. A numeral without a point may have a suffix that makes it long. -/
def numberToken (chars : List Char) : Piece × Nat :=
  let (digits, hasPoint) := numeral chars
  let value := String.ofList digits
  if hasPoint then (.token .doubleLiteral value, digits.length)
  else
    match chars.drop digits.length with
    | 'L' :: _ => (.token .longLiteral value, digits.length + 1)
    | 'l' :: _ => (.token .longLiteral value, digits.length + 1)
    | _ => (.token .integerLiteral value, digits.length)

def symbolToken (char : Char) (rest : List Char) : Except Complaint (Piece × Nat) :=
  match Symbol.ofChars? (char :: rest.take 1) with
  | some symbol => .ok (.token (.symbol symbol) symbol.spelling, symbol.spelling.length)
  | none =>
      match Symbol.ofChars? [char] with
      | some symbol => .ok (.token (.symbol symbol) symbol.spelling, 1)
      | none => .error (.unexpectedChar char)

/-- The first piece of a text that is not empty, and its length, which is positive. -/
def piece (char : Char) (rest : List Char) : Except Complaint (Piece × Nat) :=
  if isSpace char then .ok (.gap, 1)
  else if char = '/' && rest.head? = some '/' then
    .ok (.gap, 1 + (rest.takeWhile (· ≠ '\n')).length)
  else if char = '/' && rest.head? = some '*' then
    match commentLength? (rest.drop 1) with
    | some length => .ok (.gap, 2 + length)
    | none => .error .unclosedComment
  else if isNameStart char then .ok (nameToken (char :: rest))
  else if Text.isDigit char then .ok (numberToken (char :: rest))
  else if char = '"' then
    match stringBody? rest with
    | some body => .ok (.token .stringLiteral (String.ofList body), body.length + 2)
    | none => .error .unclosedString
  else if char = '\'' then
    match charBody rest with
    | .ok body => .ok (.token .charLiteral (String.ofList body), body.length + 2)
    | .error complaint => .error complaint
  else symbolToken char rest

def tokensFrom (position : Position) : List Char → Except SourceError (List Token)
  | [] => .ok [{ kind := .endOfInput, value := "EOF", line := position.line, column := position.column }]
  | char :: rest =>
      match piece char rest with
      | .error complaint => .error { complaint, line := position.line }
      | .ok (found, length) =>
          let taken := char :: rest.take (length - 1)
          match tokensFrom (position.after taken) (rest.drop (length - 1)) with
          | .error error => .error error
          | .ok tokens =>
              match found with
              | .gap => .ok tokens
              | .token kind value =>
                  .ok ({ kind, value, line := position.line, column := position.column } :: tokens)
termination_by chars => chars.length

end Stepwise.Scan

namespace Stepwise

/-- The tokens of a source, or the first thing that cannot be a token. -/
def scan (source : String) : Except SourceError (List Token) :=
  Scan.tokensFrom .start source.toList

end Stepwise
