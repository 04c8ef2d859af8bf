import Stepwise.Json
import Stepwise.Number.Layout
import Stepwise.Number.Literal

/-!
Documents: the text of a tree of data, two spaces deeper for every level, in ASCII. A code point outside ASCII is
written by the code units of UTF-16.
-/

namespace Stepwise.Json

set_option autoImplicit false

def codeUnit (unit : Nat) : List Char :=
  '\\' :: 'u' :: Text.hexDigits 4 unit

/-- A code point by the code units of UTF-16. A surrogate is its own code unit. -/
def codeUnits (code : Nat) : List Char :=
  if code < 0x10000 then codeUnit code
  else
    let offset := code - 0x10000
    codeUnit (0xD800 + offset / 0x400) ++ codeUnit (0xDC00 + offset % 0x400)

def stringPoint (point : CodePoint) : List Char :=
  match point.char? with
  | some '"' => ['\\', '"']
  | some '\\' => ['\\', '\\']
  | some '\n' => ['\\', 'n']
  | some '\r' => ['\\', 'r']
  | some '\t' => ['\\', 't']
  | some '\x08' => ['\\', 'b']
  | some '\x0c' => ['\\', 'f']
  | some char => if 0x20 ≤ char.toNat ∧ char.toNat ≤ 0x7E then [char] else codeUnits char.toNat
  | none => codeUnits point.code

def stringText (text : Text) : String :=
  String.ofList ('"' :: (text.flatMap stringPoint ++ ['"']))

def lineStart (depth : Nat) : String :=
  String.ofList ('\n' :: List.replicate (2 * depth) ' ')

mutual

def append (written : String) (depth : Nat) : Json → Except Fault String
  | .null => .ok (written ++ "null")
  | .bool value => .ok (written ++ if value then "true" else "false")
  | .int value =>
      match Number.integerText value with
      | .ok text => .ok (written ++ text)
      | .error fault => .error fault
  | .double value => .ok (written ++ Number.documentText value)
  | .string value => .ok (written ++ stringText value)
  | .array [] => .ok (written ++ "[]")
  | .array (item :: items) =>
      match append (written ++ "[" ++ lineStart (depth + 1)) (depth + 1) item with
      | .error fault => .error fault
      | .ok started =>
          match appendItems started (depth + 1) items with
          | .error fault => .error fault
          | .ok filled => .ok (filled ++ lineStart depth ++ "]")
  | .object [] => .ok (written ++ "\x7b\x7d")
  | .object ((name, value) :: fields) =>
      match append (written ++ "\x7b" ++ lineStart (depth + 1) ++ stringText name ++ ": ") (depth + 1) value with
      | .error fault => .error fault
      | .ok started =>
          match appendFields started (depth + 1) fields with
          | .error fault => .error fault
          | .ok filled => .ok (filled ++ lineStart depth ++ "\x7d")

def appendItems (written : String) (depth : Nat) : List Json → Except Fault String
  | [] => .ok written
  | item :: items =>
      match append (written ++ "," ++ lineStart depth) depth item with
      | .error fault => .error fault
      | .ok longer => appendItems longer depth items

def appendFields (written : String) (depth : Nat) : List (String × Json) → Except Fault String
  | [] => .ok written
  | (name, value) :: fields =>
      match append (written ++ "," ++ lineStart depth ++ stringText name ++ ": ") depth value with
      | .error fault => .error fault
      | .ok longer => appendFields longer depth fields

end

def document (tree : Json) : Except Fault String :=
  append "" 0 tree

end Stepwise.Json
