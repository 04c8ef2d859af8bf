import Stepwise.Complaint
import Stepwise.Fault

/-!
Reading a list of tokens. A cursor stands on a token and has the tokens behind it. A reader moves the cursor and yields
a part of the tree, or rejects the input; the cursor at that moment is kept with the rejection.
-/

namespace Stepwise

set_option autoImplicit false

structure Cursor where
  current : Token
  rest : List Token
  deriving Repr

namespace Cursor

/-- The token a number of places ahead, or the last one if there are not as many. -/
def ahead (cursor : Cursor) : Nat → Token
  | 0 => cursor.current
  | distance + 1 => cursor.rest.getD distance (cursor.rest.getLastD cursor.current)

/-- The cursor on the next token, whichever token it stands on. Behind the last one there is none. -/
def next? (cursor : Cursor) : Option Cursor :=
  match cursor.rest with
  | [] => none
  | token :: tokens => some { current := token, rest := tokens }

/-- The cursor on the next token, or where it stands if that is an end. -/
def advanced (cursor : Cursor) : Cursor :=
  if cursor.current.isEnd then cursor
  else
    match cursor.rest with
    | [] => cursor
    | token :: tokens => { current := token, rest := tokens }

end Cursor

inductive Rejection
  | malformed (error : SourceError)
  /-- The text of a literal has no value. -/
  | fault (fault : Fault)
  /-- The last token does not mark the end. -/
  | unterminated
  /-- The bound on the depth of reading was too small. It is chosen so that this does not happen. -/
  | exhausted
  deriving DecidableEq, Repr

/-- How reading ends: with a result, or with a rejection; in either case at a cursor. -/
abbrev Reading (α : Type) := EStateM.Result Rejection Cursor α

def Reading.cursor {α : Type} : Reading α → Cursor
  | .ok _ cursor => cursor
  | .error _ cursor => cursor

theorem getLastD_append {α : Type} (first others : List α) (default : α) :
    (first ++ others).getLastD default = others.getLastD (first.getLastD default) := by
  simp only [List.getLastD_eq_getLast?, List.getLast?_append]
  cases others.getLast? <;> rfl

/-- A reader: how reading ends, begun at a cursor, and the cursors that it moves to on the way, in their order. Only the
ending is ever computed; the cursors on the way are what statements about whole inputs speak of. -/
structure Reader (α : Type) where
  run : Cursor → Reading α
  trail : Cursor → List Cursor
  trail_ending : ∀ start, (trail start).getLastD start = (run start).cursor

namespace Reader

@[always_inline, inline]
protected def pure {α : Type} (result : α) : Reader α where
  run cursor := .ok result cursor
  trail _ := []
  trail_ending _ := rfl

@[always_inline, inline]
protected def bind {α β : Type} (first : Reader α) (next : α → Reader β) : Reader β where
  run cursor :=
    match first.run cursor with
    | .ok result between => (next result).run between
    | .error rejection between => .error rejection between
  trail cursor :=
    match first.run cursor with
    | .ok result between => first.trail cursor ++ (next result).trail between
    | .error _ _ => first.trail cursor
  trail_ending cursor := by
    have ending := first.trail_ending cursor
    cases outcome : first.run cursor with
    | ok result between =>
        rw [outcome] at ending
        have following := (next result).trail_ending between
        exact (getLastD_append _ _ _).trans (ending ▸ following)
    | error rejection between =>
        rw [outcome] at ending
        exact ending

instance : Monad Reader where
  pure := Reader.pure
  bind := Reader.bind

@[always_inline, inline]
def get : Reader Cursor where
  run cursor := .ok cursor cursor
  trail _ := []
  trail_ending _ := rfl

@[always_inline, inline]
def moveTo (next : Cursor) : Reader Unit where
  run _ := .ok () next
  trail _ := [next]
  trail_ending _ := rfl

@[always_inline, inline]
def reject {α : Type} (rejection : Rejection) : Reader α where
  run cursor := .error rejection cursor
  trail _ := []
  trail_ending _ := rfl

def current : Reader Token := do
  return (← get).current

def at? (kind : TokenKind) : Reader Bool := do
  return (← get).current.kind = kind

/-- Moves on to the next token unless the cursor stands on an end, and yields the token it stood on. -/
def advance : Reader Token := do
  let cursor ← get
  moveTo cursor.advanced
  return cursor.current

/-- Moves on to the next token, even from one that marks the end. -/
def step : Reader Unit := do
  match (← get).next? with
  | some next => moveTo next
  | none => reject (.fault .missingHandle)

def accept (kind : TokenKind) : Reader Bool := do
  if ← at? kind then
    step
    return true
  else return false

def complain {α : Type} (complaint : Complaint) (token : Token) : Reader α :=
  reject (.malformed { complaint, line := token.line })

/-- Takes the only token that can stand at a place of the grammar. -/
def expect (place : Expectation) : Reader Token := do
  let token ← current
  if token.kind = place.kind then advance
  else
    let keyword := if token.kind.isKeyword then some token.value else none
    complain (.expected place keyword) token

def literal {α : Type} (value : Except Fault α) : Reader α :=
  match value with
  | .ok value => return value
  | .error fault => reject (.fault fault)

end Reader

end Stepwise
