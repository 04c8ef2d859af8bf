import Stepwise.Json

/-!
Outlines: trees of records, lists and leaves, shown as data down to a limit of depth. What lies deeper is replaced by
a marker. A record may name its kind; the name is shown with the record and has no depth of its own.
-/

namespace Stepwise

set_option autoImplicit false

inductive Outline
  | leaf (value : Json)
  | list (items : List Outline)
  | record (kind : Option String) (fields : List (String × Outline))
  deriving Repr, Inhabited

namespace Outline

/-- What stands in place of data that lies too deep. -/
def marker : Json := .object [("_truncated", .bool true)]

def kindField : Option String → List (String × Json)
  | some kind => [("kind", .string kind)]
  | none => []

/-- Shows an outline with as many levels below the root. -/
def shown : Nat → Outline → Json
  | _, leaf value => value
  | 0, list items => .array (items.map fun _ => marker)
  | limit + 1, list items => .array (items.map (shown limit))
  | 0, record kind fields => .object (kindField kind ++ fields.map fun field => (field.1, marker))
  | limit + 1, record kind fields =>
      .object (kindField kind ++ fields.map fun field => (field.1, shown limit field.2))

/-- Shows an outline down to a depth. Below the depth zero of the root nothing is left but the marker. -/
def upTo (depth : Int) (outline : Outline) : Json :=
  if depth < 0 then marker else outline.shown depth.toNat

/-- The depth that is shown where none is asked for. -/
def defaultDepth : Int := 64

mutual

def ofJson : Json → Outline
  | .array items => list (ofItems items)
  | .object fields => record none (ofFields fields)
  | value => leaf value

def ofItems : List Json → List Outline
  | [] => []
  | item :: items => ofJson item :: ofItems items

def ofFields : List (String × Json) → List (String × Outline)
  | [] => []
  | (name, value) :: fields => (name, ofJson value) :: ofFields fields

end

end Outline

end Stepwise
