import Stepwise.Proofs.Escapes.Letters
import Stepwise.Proofs.References

/-!
# Values as closed text

The texts of values that are no strings hold no backslash but those of names, so that joining closed strings to values
yields closed strings, spelled in the same style. Joining two values and writing the outcome to the console comes to the
same as writing one after the other.
-/

namespace Stepwise

set_option autoImplicit false

namespace Number

theorem not_mem_toDigits (number : Nat) : '\\' ∉ Nat.toDigits 10 number := by
  intro member
  have digit := Nat.isDigit_of_mem_toDigits (by decide) (by decide) member
  revert digit
  decide

theorem not_mem_integerText {integer : Int} {text : String} (written : integerText integer = .ok text) :
    '\\' ∉ text.toList := by
  unfold integerText at written
  have digits := not_mem_toDigits integer.natAbs
  dsimp only at written
  split at written
  · cases written
  · cases written
    rw [String.toList_ofList]
    split
    · simp [digits]
    · exact digits

theorem not_mem_ofCoefficient (coefficient : Nat) (exponent : Int) :
    '\\' ∉ (Decimal.ofCoefficient coefficient exponent).digits := by
  intro member
  have kept := (List.dropWhile_sublist _).subset (List.mem_reverse.mp member)
  exact not_mem_toDigits coefficient (List.mem_reverse.mp kept)

theorem not_mem_shortest (mantissa shift : Nat) : '\\' ∉ (shortest mantissa shift).digits := by
  unfold shortest
  extract_lets interval point onGrid
  cases found : (List.range 17).findSome? onGrid with
  | none => decide
  | some decimal =>
      obtain ⟨index, -, tried⟩ := List.exists_of_findSome?_eq_some found
      obtain ⟨coefficient, -, rfl⟩ := Option.map_eq_some_iff.mp tried
      exact not_mem_ofCoefficient coefficient _

theorem not_mem_positional {decimal : Decimal} (digits : '\\' ∉ decimal.digits) : '\\' ∉ decimal.positional := by
  have first := fun count => mt (List.mem_of_mem_take (i := count)) digits
  have last := fun count => mt (List.mem_of_mem_drop (i := count)) digits
  unfold Decimal.positional
  dsimp only
  split
  · simp [digits]
  · split
    · simp [digits]
    · simp [first, last]

theorem not_mem_exponentText (exponent : Int) : '\\' ∉ Layout.console.exponentText exponent := by
  have digits := not_mem_toDigits exponent.natAbs
  unfold Layout.exponentText
  simp only [Layout.console]
  split <;> simp [digits]

theorem not_mem_scientific {decimal : Decimal} (digits : '\\' ∉ decimal.digits) :
    '\\' ∉ Layout.console.scientific decimal := by
  have first := fun count => mt (List.mem_of_mem_take (i := count)) digits
  have last := fun count => mt (List.mem_of_mem_drop (i := count)) digits
  have exponent := not_mem_exponentText (decimal.point - 1)
  unfold Layout.scientific
  simp only [List.mem_append, not_or]
  refine ⟨⟨first 1, ?_⟩, exponent⟩
  split
  · decide
  · next rest _ =>
      rw [List.mem_cons, not_or]
      exact ⟨by decide, last 1⟩

theorem not_mem_consoleText (number : Float) : '\\' ∉ (consoleText number).toList := by
  unfold consoleText
  split
  · decide
  · split <;> decide
  · next negative mantissa shift _ =>
      have digits := not_mem_shortest mantissa shift
      have magnitude : '\\' ∉ Layout.console.magnitude (shortest mantissa shift) := by
        unfold Layout.magnitude
        split
        · exact not_mem_positional digits
        · exact not_mem_scientific digits
      rw [String.toList_ofList]
      unfold Layout.finite
      dsimp only
      split
      · cases negative <;> decide
      · cases negative <;> simp [magnitude]

end Number

/-- What the text of a cell begins with: its element type, or its class. -/
def Cell.label : Cell → String
  | .array elementType _ => elementType
  | .object className _ => className

def Heap.Labelled (heap : Heap) : Prop :=
  heap.Hold fun cell => Text.Solid cell.label

namespace Value

variable {heap : Heap}

/-- If the value is a string, its raw text is closed; if it is a class, its name has no backslash. -/
def Closed : Value → Prop
  | .string raw => Text.Closed raw
  | .class_ name _ => Text.Solid name
  | _ => True

def SpelledIn (style : Text.Style) : Value → Prop
  | .string raw => Text.SpelledIn style raw
  | .class_ name _ => Text.Solid name
  | _ => True

variable {style : Text.Style}

theorem IsPlain.spelledIn {value : Value} (plain : value.IsPlain) : value.SpelledIn style := by
  cases value with
  | string raw => exact plain.elim
  | class_ name methods => exact plain.elim
  | _ => trivial

theorem SpelledIn.closed {value : Value} (spelled : value.SpelledIn style) : value.Closed := by
  cases value with
  | string raw => exact Text.SpelledIn.closed spelled
  | class_ name methods => exact spelled
  | _ => trivial

theorem Closed.spelledIn_free {value : Value} (closed : value.Closed) : value.SpelledIn .free := by
  cases value with
  | string raw => exact Text.Closed.spelledIn_free closed
  | class_ name methods => exact closed
  | _ => trivial

theorem solid_heapId (handle : Nat) : Text.Solid (heapId handle) := by
  have digits := Number.not_mem_toDigits handle
  apply Text.solid_ofString
  rw [heapId, Nat.toString_eq_repr, Nat.repr_eq_ofList_toDigits, String.toList_append, String.toList_ofList]
  simp [digits]

theorem solid_text {value : Value} {text : Text} (labelled : heap.Labelled) (closed : value.Closed)
    (noChar : ∀ point, value ≠ .char point) (noString : ∀ raw, value ≠ .string raw) (written : value.text heap = .ok text) :
    Text.Solid text := by
  cases value with
  | int integer =>
      rw [Value.text] at written
      cases outcome : Number.integerText integer with
      | ok digits =>
          rw [outcome] at written
          cases written
          exact Text.solid_ofString (Number.not_mem_integerText outcome)
      | error fault =>
          rw [outcome] at written
          cases written
  | double number =>
      cases written
      exact Text.solid_ofString (Number.not_mem_consoleText number)
  | bool truth =>
      cases written
      unfold Text.Solid
      cases truth <;> decide
  | char point => exact absurd rfl (noChar point)
  | string raw => exact absurd rfl (noString raw)
  | null | void =>
      cases written
      unfold Text.Solid
      decide
  | ref handle =>
      have marks : Text.Solid "[]@" ∧ Text.Solid "@" := by
        unfold Text.Solid
        decide
      rw [Value.text] at written
      split at written
      · next elementType values found =>
          cases written
          exact ((labelled handle _ found).append marks.1).append (solid_heapId handle)
      · next className fields found =>
          cases written
          exact ((labelled handle _ found).append marks.2).append (solid_heapId handle)
      · cases written
  | class_ name methods =>
      have front : Text.Solid "class " := by
        unfold Text.Solid
        decide
      cases written
      exact front.append closed

theorem spelledIn_text {value : Value} {text : Text} (labelled : heap.Labelled) (spelled : value.SpelledIn style)
    (noChar : ∀ point, value ≠ .char point) (written : value.text heap = .ok text) :
    Text.SpelledIn style text := by
  cases value with
  | string raw =>
      cases written
      exact spelled
  | _ => exact (solid_text labelled spelled.closed noChar nofun written).spelledIn

/-- The text of a value as a part of a string is closed, and spelled in the style of the value. -/
theorem spelledIn_rawText {value : Value} {raw : Text} (labelled : heap.Labelled) (spelled : value.SpelledIn style)
    (written : value.rawText heap = .ok raw) : Text.SpelledIn style raw := by
  unfold rawText at written
  split at written
  · next point =>
      cases written
      exact Text.spelledIn_rawPoint point
  · next other => exact spelledIn_text labelled spelled other written

theorem spelledIn_joined {left right result : Value} (labelled : heap.Labelled) (first : left.SpelledIn style)
    (second : right.SpelledIn style) (applied : joined heap left right = .ok result) : result.SpelledIn style := by
  obtain ⟨leftText, writtenLeft, applied⟩ := bind_eq_ok applied
  obtain ⟨rightText, writtenRight, applied⟩ := bind_eq_ok applied
  cases applied
  exact (spelledIn_rawText labelled first writtenLeft).append (spelledIn_rawText labelled second writtenRight)

theorem spelledIn_binary {line : Nat} {spelling : String} {left right result : Value} (labelled : heap.Labelled)
    (first : left.SpelledIn style) (second : right.SpelledIn style)
    (applied : binary heap line spelling left right = .ok result) : result.SpelledIn style := by
  rcases binary_eq_ok applied with ⟨truth, rfl⟩ | ⟨operation, one, two, -, -, computed⟩ | joins
  · trivial
  · exact ((sound_numericArithmetic line operation one two).1 result computed).spelledIn
  · exact spelledIn_joined labelled first second joins

theorem spelledIn_coerce {typeName : Option String} {value stored : Value} (spelled : value.SpelledIn style)
    (coerced : value.coerce typeName = .ok stored) : stored.SpelledIn style := by
  rcases plain_or_eq_of_coerce coerced with plain | rfl
  · exact plain.spelledIn
  · exact spelled

theorem spelledIn_narrowedLike {current result stored : Value} (spelled : result.SpelledIn style)
    (narrowed : current.narrowedLike result = .ok stored) : stored.SpelledIn style := by
  rcases plain_or_eq_of_narrowedLike narrowed with plain | rfl
  · exact plain.spelledIn
  · exact spelled

/-- Joining two values to a string and writing it to the console comes to the same as writing both, one after the
other. -/
theorem output_joined {left : Value} (labelled : heap.Labelled) (closed : left.Closed) (right : Value) :
    (do
      let sum ← joined heap left right
      ConsoleMethod.print.output heap [sum]) =
    (do
      let front ← ConsoleMethod.print.output heap [left]
      let back ← ConsoleMethod.print.output heap [right]
      return front ++ back) := by
  unfold joined
  simp only [ConsoleMethod.output, consoleText]
  cases outcomeLeft : left.rawText heap with
  | error failure => rfl
  | ok leftText =>
      cases outcomeRight : right.rawText heap with
      | error failure => rfl
      | ok rightText =>
          have front := spelledIn_rawText labelled closed.spelledIn_free outcomeLeft
          exact congrArg Except.ok (front.closed.expanded_append rightText)

end Value

end Stepwise
