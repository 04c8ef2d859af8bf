import Stepwise.Heap
import Stepwise.Value.Conversion

/-!
Values as text. Raw text differs only for characters: text that is joined to a string becomes part of its raw text,
where a backslash must not turn into the beginning of an escape.
-/

namespace Stepwise.Value

set_option autoImplicit false

/-- The text of a value. A reference shows the type of its cell and its handle. -/
def text (heap : Heap) : Value → Except Failure Text
  | bool value => .ok (if value then "true" else "false")
  | int value => Text.ofString <$> liftFault (Number.integerText value)
  | double value => .ok (Number.consoleText value)
  | char point => .ok [point]
  | string raw => .ok raw
  | null => .ok "null"
  | ref handle =>
      match heap.get? handle with
      | some (.array elementType _) => .ok (elementType ++ "[]@" ++ heapId handle)
      | some (.object className _) => .ok (className ++ "@" ++ heapId handle)
      | none => .error (.fault .missingHandle)
  | class_ name _ => .ok ("class " ++ name)
  | void => .ok ""

/-- The text of a value as a part of a string. -/
def rawText (heap : Heap) : Value → Except Failure Text
  | char point => .ok (Text.rawPoint point)
  | value => value.text heap

/-- What the console shows of a value. -/
def consoleText (heap : Heap) (value : Value) : Except Failure Text :=
  match value.rawText heap with
  | .ok raw => .ok (Text.expanded raw)
  | .error failure => .error failure

end Stepwise.Value
