import Stepwise.Json
import Stepwise.Number.Layout

/-!
The values a program computes with. Integers have no bounds; a string is kept as raw text, its escapes untouched; a
character is a code point, already decoded. Arrays and objects live in the heap and are referred to by handle. A class is a value
too, so that its name can be told from a variable, but it has no operations.
-/

namespace Stepwise

set_option autoImplicit false

inductive Value
  | int (value : Int)
  | double (value : Float)
  | bool (value : Bool)
  | char (point : CodePoint)
  | string (raw : Text)
  | null
  | ref (handle : Nat)
  | void
  | class_ (name : String) (methods : List String)
  deriving DecidableEq, Repr, Inhabited

inductive Kind
  | int | double | boolean | char | string | null | reference | void | class_
  deriving DecidableEq, Repr

def Kind.label : Kind → String
  | int => "int"
  | double => "double"
  | boolean => "boolean"
  | char => "char"
  | string => "String"
  | null => "null"
  | reference => "reference"
  | void => "void"
  | class_ => "class"

/-- A number: a value of integral kind, characters counting by code point, or a double. -/
inductive Numeric
  | integral (value : Int)
  | double (value : Float)
  deriving DecidableEq, Repr

def Numeric.place : Numeric → Number.Place
  | integral value => .ofInt value
  | double value => .ofFloat value

namespace Value

def kind : Value → Kind
  | int _ => .int
  | double _ => .double
  | bool _ => .boolean
  | char _ => .char
  | string _ => .string
  | null => .null
  | ref _ => .reference
  | void => .void
  | class_ .. => .class_

def numeric? : Value → Option Numeric
  | int value => some (.integral value)
  | char point => some (.integral point.code)
  | double value => some (.double value)
  | _ => none

/-- The integer that a value of integral kind is. -/
def integral? : Value → Option Int
  | int value => some value
  | char point => some point.code
  | _ => none

def isNumeric (value : Value) : Bool := value.numeric?.isSome

def isIntegral (value : Value) : Bool := value.integral?.isSome

def isClass : Value → Bool
  | class_ .. => true
  | _ => false

def heapId (handle : Nat) : String := "heap_" ++ toString handle

/-- A value as data. A double that is not finite is shown by its text; nothing is shown of void. -/
def shown : Value → Json
  | int value => .int value
  | bool value => .bool value
  | char point => .string [point]
  | string raw => .string raw
  | double value =>
      match Number.Parts.ofFloat value with
      | .finite .. => .double value
      | _ => .string (Number.consoleText value)
  | ref handle => .object [("__ref__", .string (heapId handle))]
  | class_ name methods =>
      .object
        [("type", .string "class"), ("name", .string name),
          ("methods",
            .array ((methods.mergeSort fun left right => decide (left ≤ right)).map fun method : String => .string method))]
  | null => .null
  | void => .null

end Value

end Stepwise
