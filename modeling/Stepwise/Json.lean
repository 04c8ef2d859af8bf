import Stepwise.Number.Line
import Stepwise.Text

/-!
Trees of data, as they stand in documents: fields of an object keep the order in which they were put in. Two trees
agree when they hold the same data: numbers are compared by value, whatever their kind, the truth values count as one
and zero, and the order of an object's fields does not matter.
-/

namespace Stepwise

set_option autoImplicit false

inductive Json
  | null
  | bool (value : Bool)
  | int (value : Int)
  | double (value : Float)
  | string (value : Text)
  | array (items : List Json)
  | object (fields : List (String × Json))
  deriving Repr, Inhabited

namespace Json

/-- The place on the number line of a number or a truth value. -/
def place? : Json → Option Number.Place
  | bool value => some (.ofInt (if value then 1 else 0))
  | int value => some (.ofInt value)
  | double value => some (.ofFloat value)
  | _ => none

def field? (name : String) : Json → Option Json
  | object fields => fields.lookup name
  | _ => none

mutual

def agrees : Json → Json → Bool
  | .null, .null => true
  | .string left, .string right => left = right
  | .array left, .array right => agreesAll left right
  | .object left, .object right => left.length = right.length && agreesFields left right
  | left, right =>
      match left.place?, right.place? with
      | some leftPlace, some rightPlace => leftPlace.same rightPlace
      | _, _ => false

def agreesAll : List Json → List Json → Bool
  | [], [] => true
  | left :: lefts, right :: rights => agrees left right && agreesAll lefts rights
  | _, _ => false

/-- Whether each of the first fields has a field of the same name and data among the second. -/
def agreesFields : List (String × Json) → List (String × Json) → Bool
  | [], _ => true
  | (name, left) :: others, fields =>
      (match fields.lookup name with
        | some right => agrees left right
        | none => false) && agreesFields others fields

end

end Json

end Stepwise
