import Stepwise.Operator
import Stepwise.Proofs.Doubles

/-!
# Comparing values

Numbers of all kinds are compared by their exact values, which lie on the line of the rationals between two infinities;
only a double that is not a number has no value and is neither before, nor after, nor equal to anything. So the order
of numbers is that of a line, and equal numbers can stand for each other. Values of other kinds are equal if they are
identified by the same: by a truth value, a text, a handle or the name of a class.
-/

namespace Stepwise

set_option autoImplicit false

namespace Number

abbrev Extended := WithBot (WithTop ℚ)

/-- The exact value of a double that is a number. -/
def Parts.exactValue? : Parts → Option Extended
  | nan => none
  | infinity negative => some (if negative then ⊥ else ⊤)
  | finite negative mantissa shift => some ((signed negative (magnitude mantissa shift) : ℚ) : WithTop ℚ)

namespace Place

def exactValue? : Place → Option Extended
  | unordered => none
  | lowEnd => some ⊥
  | exactly units => some (((units : ℚ) / oneInUnits : ℚ) : WithTop ℚ)
  | highEnd => some ⊤

variable {left right : Place} {one two : Extended}

theorem exactValue?_eq_none_iff {place : Place} : place.exactValue? = none ↔ place = .unordered := by
  cases place <;> simp [exactValue?]

theorem unordered_before (place : Place) : Place.unordered.before place = false := by
  cases place <;> rfl

theorem before_unordered (place : Place) : place.before .unordered = false := by
  cases place <;> rfl

theorem unordered_same (place : Place) : Place.unordered.same place = false := by
  cases place <;> rfl

theorem same_unordered (place : Place) : place.same .unordered = false := by
  cases place <;> rfl

theorem eq_of_same (same : left.same right = true) : left = right := by
  cases left with
  | unordered =>
      rw [unordered_same] at same
      cases same
  | lowEnd | highEnd | exactly =>
      cases right with
      | unordered =>
          rw [same_unordered] at same
          cases same
      | lowEnd | highEnd | exactly => exact of_decide_eq_true same

theorem exact_of_before (before : left.before right = true) :
    (∃ one, left.exactValue? = some one) ∧ ∃ two, right.exactValue? = some two := by
  rw [← Option.ne_none_iff_exists', ← Option.ne_none_iff_exists', Ne, Ne, exactValue?_eq_none_iff,
    exactValue?_eq_none_iff]
  constructor
  · rintro rfl
    rw [unordered_before] at before
    cases before
  · rintro rfl
    rw [before_unordered] at before
    cases before

theorem exactly_lt_iff (left right : Int) :
    (left : ℚ) / oneInUnits < (right : ℚ) / oneInUnits ↔ left < right := by
  rw [div_lt_div_iff_of_pos_right oneInUnits_pos, Int.cast_lt]

theorem exactly_eq_iff (left right : Int) :
    (left : ℚ) / oneInUnits = (right : ℚ) / oneInUnits ↔ left = right := by
  rw [div_left_inj' oneInUnits_pos.ne', Int.cast_inj]

theorem before_eq (first : left.exactValue? = some one) (second : right.exactValue? = some two) :
    left.before right = decide (one < two) := by
  cases left with
  | unordered => cases first
  | lowEnd =>
      cases first
      cases right <;> cases second <;> simp [before]
  | highEnd =>
      cases first
      cases right <;> cases second <;> simp [before]
  | exactly units =>
      cases first
      cases right with
      | unordered => cases second
      | lowEnd =>
          cases second
          simp [before]
      | highEnd =>
          cases second
          simp only [before, decide_true]
          exact (decide_eq_true (WithBot.coe_lt_coe.mpr (WithTop.coe_lt_top _))).symm
      | exactly others =>
          cases second
          simp only [before, WithBot.coe_lt_coe, WithTop.coe_lt_coe, exactly_lt_iff]

theorem same_eq (first : left.exactValue? = some one) (second : right.exactValue? = some two) :
    left.same right = decide (one = two) := by
  cases left with
  | unordered => cases first
  | lowEnd =>
      cases first
      cases right <;> cases second <;> simp [same]
  | highEnd =>
      cases first
      cases right <;> cases second <;> simp [same]
  | exactly units =>
      cases first
      cases right with
      | unordered => cases second
      | lowEnd =>
          cases second
          simp [same]
      | highEnd =>
          cases second
          simp [same]
      | exactly others =>
          cases second
          simp only [same, WithBot.coe_inj, WithTop.coe_inj, exactly_eq_iff, exactly.injEq]

end Place

end Number

def Numeric.exactValue? : Numeric → Option Number.Extended
  | integral value => some ((value : ℚ) : WithTop ℚ)
  | double value => (Number.Parts.ofFloat value).exactValue?

theorem Numeric.exactValue?_place (number : Numeric) : number.place.exactValue? = number.exactValue? := by
  cases number with
  | integral value =>
      have cancelled : ((value * Number.unitsPerOne : Int) : ℚ) / Number.oneInUnits = value := by
        rw [Int.cast_mul, Int.cast_natCast]
        exact mul_div_cancel_right₀ _ Number.oneInUnits_pos.ne'
      simp only [place, Number.Place.ofInt, Number.Place.exactValue?, exactValue?, cancelled]
  | double value =>
      simp only [place, Number.Place.ofFloat, exactValue?]
      cases Number.Parts.ofFloat value with
      | nan => rfl
      | infinity negative => cases negative <;> rfl
      | finite negative mantissa shift =>
          simp only [Number.Place.exactValue?, Number.Parts.exactValue?, Number.signed, Number.magnitude]
          cases negative <;> simp [neg_div]

namespace Value

inductive Identity
  | number (value : Number.Extended)
  | truth (value : Bool)
  | text (raw : Text)
  | nothing
  | cell (handle : Nat)
  | named (className : String)

/-- What identifies a value. Nothing identifies void or a double that is not a number. -/
def identity? (value : Value) : Option Identity :=
  match value with
  | int _ | char _ | double _ => (value.numeric?.bind Numeric.exactValue?).map .number
  | bool truth => some (.truth truth)
  | string raw => some (.text raw)
  | null => some .nothing
  | ref handle => some (.cell handle)
  | class_ name _ => some (.named name)
  | void => none

theorem numeric_equal_iff {one two : Numeric} :
    one.place.same two.place = true ↔ ∃ value, one.exactValue? = some value ∧ two.exactValue? = some value := by
  rw [← one.exactValue?_place, ← two.exactValue?_place]
  cases first : one.place.exactValue? with
  | none => simp [Number.Place.exactValue?_eq_none_iff.mp first, Number.Place.same]
  | some left =>
      cases second : two.place.exactValue? with
      | none => simp [Number.Place.exactValue?_eq_none_iff.mp second, Number.Place.same_unordered]
      | some right => simp [Number.Place.same_eq first second, eq_comm]

theorem equal_iff {left right : Value} :
    left.equal right = true ↔ ∃ identity, left.identity? = some identity ∧ right.identity? = some identity := by
  cases left <;> cases right <;> simp [equal, identity?, numeric?, numeric_equal_iff]
  all_goals exact eq_comm

def IsNaN (value : Value) : Prop :=
  ∃ number, value = double number ∧ Number.Parts.ofFloat number = .nan

/-- The value is a number that has a place in the order. -/
def IsOrdered (value : Value) : Prop :=
  value.isNumeric ∧ ¬value.IsNaN

def exactValue? (value : Value) : Option Number.Extended :=
  value.numeric?.bind Numeric.exactValue?

/-- The operator yields this truth value for the two values, whatever the heap holds. -/
def Yields (spelling : String) (left right : Value) (truth : Bool) : Prop :=
  ∀ heap line, binary heap line spelling left right = .ok (.bool truth)

variable {left right : Value} {one two : Numeric} {truth : Bool}

theorem exactValue?_eq_none_iff {number : Float} :
    (Number.Parts.ofFloat number).exactValue? = none ↔ Number.Parts.ofFloat number = .nan := by
  cases Number.Parts.ofFloat number <;> simp [Number.Parts.exactValue?]

theorem isOrdered_iff {value : Value} : value.IsOrdered ↔ ∃ exact, value.exactValue? = some exact := by
  rw [← Option.isSome_iff_exists]
  cases value with
  | double number =>
      have same : (double number).exactValue? = (Number.Parts.ofFloat number).exactValue? := rfl
      rw [same, Option.isSome_iff_ne_none, Ne, exactValue?_eq_none_iff]
      simp [IsOrdered, isNumeric, numeric?, IsNaN]
  | int | char | bool | string | null | ref | void | class_ =>
      simp [IsOrdered, isNumeric, numeric?, IsNaN, exactValue?, Numeric.exactValue?]

theorem identity?_eq_none_iff {value : Value} : value.identity? = none ↔ value = void ∨ value.IsNaN := by
  cases value with
  | double number =>
      have same : (double number).identity? = (Number.Parts.ofFloat number).exactValue?.map .number := rfl
      rw [same, Option.map_eq_none_iff, exactValue?_eq_none_iff]
      simp [IsNaN]
  | int | char | bool | string | null | ref | void | class_ => simp [identity?, IsNaN, numeric?, Numeric.exactValue?]

theorem Yields.unique {spelling : String} {other : Bool} (yields : Yields spelling left right truth)
    (also : Yields spelling left right other) : truth = other := by
  have same := (yields .empty 0).symm.trans (also .empty 0)
  cases same
  rfl

theorem yields_equal (left right : Value) : Yields "==" left right (left.equal right) := fun _ _ => rfl

theorem yields_notEqual (left right : Value) : Yields "!=" left right (!left.equal right) := fun _ _ => rfl

theorem yields_equal_iff : Yields "==" left right truth ↔ left.equal right = truth :=
  ⟨fun yields => (yields_equal left right).unique yields, fun same => same ▸ yields_equal left right⟩

theorem yields_notEqual_iff : Yields "!=" left right truth ↔ (!left.equal right) = truth :=
  ⟨fun yields => (yields_notEqual left right).unique yields, fun same => same ▸ yields_notEqual left right⟩

end Value

def Comparison.spelling : Comparison → String
  | less => "<"
  | greater => ">"
  | lessEqual => "<="
  | greaterEqual => ">="

theorem Comparison.ofSpelling?_spelling (relation : Comparison) :
    BinaryOperator.ofSpelling? relation.spelling = some (.comparison relation) := by
  cases relation <;> decide

namespace Value

variable {left right : Value} {one two : Numeric} {truth : Bool} {relation : Comparison}

theorem yields_comparison (relation : Comparison) (first : left.numeric? = some one)
    (second : right.numeric? = some two) :
    Yields relation.spelling left right (compare relation one.place two.place) := by
  intro heap line
  simp only [binary, relation.ofSpelling?_spelling, applyBinary, first, second]

/-- A comparison of order yields a truth value for two numbers, and for nothing else. -/
theorem yields_comparison_iff :
    Yields relation.spelling left right truth ↔
      ∃ one two, left.numeric? = some one ∧ right.numeric? = some two ∧
        compare relation one.place two.place = truth := by
  constructor
  · intro yields
    cases first : left.numeric? with
    | none =>
        have impossible := yields .empty 0
        simp [binary, relation.ofSpelling?_spelling, applyBinary, first] at impossible
    | some one =>
        cases second : right.numeric? with
        | none =>
            have impossible := yields .empty 0
            simp [binary, relation.ofSpelling?_spelling, applyBinary, first, second] at impossible
        | some two => exact ⟨one, two, rfl, rfl, (yields_comparison relation first second).unique yields⟩
  · rintro ⟨one, two, first, second, rfl⟩
    exact yields_comparison relation first second

theorem exactValue?_of_numeric {value : Value} (number : value.numeric? = some one) :
    value.exactValue? = one.exactValue? := by
  rw [exactValue?, number, Option.bind_some]

theorem numeric_of_exactValue? {value : Value} {exact : Number.Extended} (known : value.exactValue? = some exact) :
    ∃ number, value.numeric? = some number ∧ number.place.exactValue? = some exact := by
  obtain ⟨number, there, same⟩ := Option.bind_eq_some_iff.mp known
  exact ⟨number, there, by rw [number.exactValue?_place, same]⟩

theorem equal_of_numeric (first : left.numeric? = some one) (second : right.numeric? = some two) :
    left.equal right = one.place.same two.place := by
  simp only [equal, first, second]

theorem compare_eq {first second : Number.Place} {x y : Number.Extended} (relation : Comparison)
    (left : first.exactValue? = some x) (right : second.exactValue? = some y) :
    compare relation first second =
      match relation with
      | .less => decide (x < y)
      | .greater => decide (y < x)
      | .lessEqual => decide (x ≤ y)
      | .greaterEqual => decide (y ≤ x) := by
  cases relation with
  | less => exact Number.Place.before_eq left right
  | greater => exact Number.Place.before_eq right left
  | lessEqual =>
      rw [compare, Number.Place.notAfter, Number.Place.before_eq left right, Number.Place.same_eq left right,
        ← Bool.decide_or, decide_eq_decide, ← le_iff_lt_or_eq]
  | greaterEqual =>
      rw [compare, Number.Place.notAfter, Number.Place.before_eq right left, Number.Place.same_eq right left,
        ← Bool.decide_or, decide_eq_decide, ← le_iff_lt_or_eq]

/-- Numbers that have exact values are compared as these are. -/
theorem yields_of_exact {x y : Number.Extended} (first : left.exactValue? = some x)
    (second : right.exactValue? = some y) :
    Yields "<" left right (decide (x < y)) ∧ Yields ">" left right (decide (y < x)) ∧
      Yields "<=" left right (decide (x ≤ y)) ∧ Yields ">=" left right (decide (y ≤ x)) ∧
      Yields "==" left right (decide (x = y)) := by
  obtain ⟨one, leftNumber, leftPlace⟩ := numeric_of_exactValue? first
  obtain ⟨two, rightNumber, rightPlace⟩ := numeric_of_exactValue? second
  have compared := fun relation : Comparison =>
    compare_eq relation leftPlace rightPlace ▸ yields_comparison relation leftNumber rightNumber
  refine ⟨compared .less, compared .greater, compared .lessEqual, compared .greaterEqual, ?_⟩
  rw [yields_equal_iff, equal_of_numeric leftNumber rightNumber]
  exact Number.Place.same_eq leftPlace rightPlace

theorem exact_of_less (less : Yields "<" left right true) :
    ∃ x y, left.exactValue? = some x ∧ right.exactValue? = some y ∧ x < y := by
  have spelled : Yields Comparison.less.spelling left right true := less
  obtain ⟨one, two, first, second, before⟩ := yields_comparison_iff.mp spelled
  obtain ⟨⟨x, leftExact⟩, y, rightExact⟩ := Number.Place.exact_of_before before
  refine ⟨x, y, ?_, ?_, ?_⟩
  · rw [exactValue?_of_numeric first, ← one.exactValue?_place, leftExact]
  · rw [exactValue?_of_numeric second, ← two.exactValue?_place, rightExact]
  · exact of_decide_eq_true (Number.Place.before_eq leftExact rightExact ▸ before)

theorem compare_unordered {first second : Number.Place} (relation : Comparison)
    (nowhere : first = .unordered ∨ second = .unordered) : compare relation first second = false := by
  rcases nowhere with rfl | rfl <;> cases relation <;>
    simp only [compare, Number.Place.notAfter, Number.Place.before_unordered, Number.Place.unordered_before,
      Number.Place.same_unordered, Number.Place.unordered_same, Bool.or_false]

theorem identity?_cases {value : Value} {identity : Identity} (identified : value.identity? = some identity) :
    (∃ exact, identity = .number exact ∧ value.exactValue? = some exact) ∨
      value.numeric? = none ∧ ∀ exact, identity ≠ .number exact := by
  cases value with
  | int | char | double =>
      simp only [identity?] at identified
      obtain ⟨exact, known, rfl⟩ := Option.map_eq_some_iff.mp identified
      exact .inl ⟨exact, rfl, known⟩
  | bool | string | null | ref | class_ =>
      cases identified
      exact .inr ⟨rfl, nofun⟩
  | void => cases identified

/-- Equal values have the same place if they are numbers, and otherwise neither is one. -/
theorem numeric_of_equal (same : left.equal right = true) :
    (∃ one two, left.numeric? = some one ∧ right.numeric? = some two ∧ one.place = two.place) ∨
      left.numeric? = none ∧ right.numeric? = none := by
  obtain ⟨identity, first, second⟩ := equal_iff.mp same
  rcases identity?_cases first with ⟨exact, rfl, leftExact⟩ | ⟨leftNone, other⟩
  · rcases identity?_cases second with ⟨exact', equal, rightExact⟩ | ⟨-, other⟩
    · obtain ⟨one, leftNumber, -⟩ := numeric_of_exactValue? leftExact
      obtain ⟨two, rightNumber, -⟩ := numeric_of_exactValue? rightExact
      rw [equal_of_numeric leftNumber rightNumber] at same
      exact .inl ⟨one, two, leftNumber, rightNumber, Number.Place.eq_of_same same⟩
    · exact absurd rfl (other exact)
  · rcases identity?_cases second with ⟨exact, equal, -⟩ | ⟨rightNone, -⟩
    · exact absurd equal (other exact)
    · exact .inr ⟨leftNone, rightNone⟩

theorem yields_congr (same : left.equal right = true) (relation : Comparison) (other : Value) :
    (Yields relation.spelling left other truth ↔ Yields relation.spelling right other truth) ∧
      (Yields relation.spelling other left truth ↔ Yields relation.spelling other right truth) := by
  simp only [yields_comparison_iff]
  rcases numeric_of_equal same with ⟨one, two, first, second, place⟩ | ⟨first, second⟩
  · simp [first, second, place]
  · simp [first, second]

theorem equal_congr (same : left.equal right = true) (other : Value) :
    left.equal other = right.equal other ∧ other.equal left = other.equal right := by
  obtain ⟨identity, first, second⟩ := equal_iff.mp same
  constructor
  · rw [Bool.eq_iff_iff, equal_iff, equal_iff, first, second]
  · rw [Bool.eq_iff_iff, equal_iff, equal_iff, first, second]

theorem place_of_isNaN {value : Value} (undefined : value.IsNaN) {number : Numeric}
    (numeric : value.numeric? = some number) : number.place = .unordered := by
  obtain ⟨double, rfl, nan⟩ := undefined
  cases numeric
  simp only [Numeric.place, Number.Place.ofFloat, nan]

theorem exists_spelling {spelling : String} (member : spelling ∈ ["<", ">", "<=", ">="]) :
    ∃ relation : Comparison, relation.spelling = spelling := by
  simp only [List.mem_cons, List.not_mem_nil, or_false] at member
  rcases member with rfl | rfl | rfl | rfl
  · exact ⟨.less, rfl⟩
  · exact ⟨.greater, rfl⟩
  · exact ⟨.lessEqual, rfl⟩
  · exact ⟨.greaterEqual, rfl⟩

/-- Of two ordered values the one is below, equal to or above the other. -/
theorem exists_order {left right : Value} (leftOrdered : left.IsOrdered) (rightOrdered : right.IsOrdered) :
    ∃ less equal greater,
      Yields "<" left right less ∧ Yields "==" left right equal ∧ Yields ">" left right greater ∧
        [less, equal, greater].count true = 1 ∧
        Yields "<=" left right (!greater) ∧ Yields ">=" left right (!less) := by
  obtain ⟨x, leftExact⟩ := isOrdered_iff.mp leftOrdered
  obtain ⟨y, rightExact⟩ := isOrdered_iff.mp rightOrdered
  obtain ⟨less, greater, lessEqual, greaterEqual, equal⟩ := yields_of_exact leftExact rightExact
  have notGreater : decide (x ≤ y) = !decide (y < x) := by rw [← decide_not, decide_eq_decide, not_lt]
  have notLess : decide (y ≤ x) = !decide (x < y) := by rw [← decide_not, decide_eq_decide, not_lt]
  refine ⟨_, _, _, less, equal, greater, ?_, notGreater ▸ lessEqual, notLess ▸ greaterEqual⟩
  rcases lt_trichotomy x y with before | rfl | after
  · simp [before, before.ne, before.not_gt]
  · simp
  · simp [after, after.ne', after.not_gt]

theorem yields_iff_of_equal {left right : Value} (equal : Yields "==" left right true) (other : Value)
    {spelling : String} (member : spelling ∈ ["<", ">", "<=", ">=", "==", "!="]) (truth : Bool) :
    (Yields spelling left other truth ↔ Yields spelling right other truth) ∧
      (Yields spelling other left truth ↔ Yields spelling other right truth) := by
  have same := yields_equal_iff.mp equal
  obtain ⟨before, behind⟩ := equal_congr same other
  rw [show ["<", ">", "<=", ">=", "==", "!="] = ["<", ">", "<=", ">="] ++ ["==", "!="] from rfl,
    List.mem_append] at member
  rcases member with ordering | equality
  · obtain ⟨relation, rfl⟩ := exists_spelling ordering
    exact yields_congr same relation other
  · simp only [List.mem_cons, List.not_mem_nil, or_false] at equality
    rcases equality with rfl | rfl
    · simp only [yields_equal_iff, before, behind, and_self]
    · simp only [yields_notEqual_iff, before, behind, and_self]

theorem yields_false_of_isNaN {left right : Value} (leftNumeric : left.isNumeric) (rightNumeric : right.isNumeric)
    (undefined : left.IsNaN ∨ right.IsNaN) {spelling : String} (member : spelling ∈ ["<", ">", "<=", ">=", "=="]) :
    Yields spelling left right false := by
  obtain ⟨one, first⟩ := Option.isSome_iff_exists.mp leftNumeric
  obtain ⟨two, second⟩ := Option.isSome_iff_exists.mp rightNumeric
  have nowhere : one.place = .unordered ∨ two.place = .unordered :=
    undefined.imp (place_of_isNaN · first) (place_of_isNaN · second)
  rw [show ["<", ">", "<=", ">=", "=="] = ["<", ">", "<=", ">="] ++ ["=="] from rfl, List.mem_append] at member
  rcases member with ordering | equality
  · obtain ⟨relation, rfl⟩ := exists_spelling ordering
    exact compare_unordered relation nowhere ▸ yields_comparison relation first second
  · obtain rfl := List.mem_singleton.mp equality
    rw [yields_equal_iff, equal_of_numeric first second]
    rcases nowhere with place | place
    · rw [place, Number.Place.unordered_same]
    · rw [place, Number.Place.same_unordered]

/-- Equality is an equivalence on all values but void and doubles that are not numbers, and inequality its negation.
Numbers are ordered as their exact values are, whatever their kinds; equal values can stand for each other in every
comparison; and a double that is not a number is neither in order with nor equal to anything. -/
theorem comparisons_coherent :
    (∀ value : Value, value ≠ void → ¬value.IsNaN → Yields "==" value value true) ∧
    (∀ left right : Value, ∃ truth,
      Yields "==" left right truth ∧ Yields "==" right left truth ∧ Yields "!=" left right !truth) ∧
    (∀ one two three : Value, Yields "==" one two true → Yields "==" two three true → Yields "==" one three true) ∧
    (∀ left right : Value, left.IsOrdered → right.IsOrdered → ∃ less equal greater,
      Yields "<" left right less ∧ Yields "==" left right equal ∧ Yields ">" left right greater ∧
        [less, equal, greater].count true = 1 ∧
        Yields "<=" left right (!greater) ∧ Yields ">=" left right (!less)) ∧
    (∀ one two three : Value, Yields "<" one two true → Yields "<" two three true → Yields "<" one three true) ∧
    (∀ left right : Value, Yields "==" left right true →
      ∀ other spelling, spelling ∈ ["<", ">", "<=", ">=", "==", "!="] → ∀ truth,
        (Yields spelling left other truth ↔ Yields spelling right other truth) ∧
          (Yields spelling other left truth ↔ Yields spelling other right truth)) ∧
    (∀ left right : Value, left.isNumeric → right.isNumeric → left.IsNaN ∨ right.IsNaN →
      ∀ spelling ∈ ["<", ">", "<=", ">=", "=="], Yields spelling left right false) ∧
    ∀ (left right : Value) (x y : Number.Extended), left.exactValue? = some x → right.exactValue? = some y →
      Yields "<" left right (decide (x < y)) ∧ Yields "==" left right (decide (x = y)) := by
  refine ⟨?reflexive, ?symmetric, ?transitive, ?trichotomy, ?chained, ?exchanged, ?unordered, ?exact⟩
  case reflexive =>
    intro value present number
    obtain ⟨identity, identified⟩ : ∃ identity, value.identity? = some identity := by
      rw [← Option.ne_none_iff_exists', Ne, identity?_eq_none_iff]
      rintro (same | undefined)
      · exact present same
      · exact number undefined
    exact yields_equal_iff.mpr (equal_iff.mpr ⟨identity, identified, identified⟩)
  case symmetric =>
    intro left right
    have swapped : right.equal left = left.equal right := by
      rw [Bool.eq_iff_iff, equal_iff, equal_iff]
      simp only [and_comm]
    exact ⟨left.equal right, yields_equal left right, yields_equal_iff.mpr swapped, yields_notEqual left right⟩
  case transitive =>
    intro one two three first second
    rw [yields_equal_iff] at first second ⊢
    rw [(equal_congr first three).1, second]
  case trichotomy => exact fun left right => exists_order
  case chained =>
    intro one two three first second
    obtain ⟨x, y, oneExact, twoExact, below⟩ := exact_of_less first
    obtain ⟨y', z, twoExact', threeExact, further⟩ := exact_of_less second
    obtain rfl : y = y' := Option.some.inj (twoExact.symm.trans twoExact')
    have less := (yields_of_exact oneExact threeExact).1
    rwa [decide_eq_true (below.trans further)] at less
  case exchanged =>
    exact fun left right equal other spelling member truth => yields_iff_of_equal equal other member truth
  case unordered =>
    intro left right leftNumeric rightNumeric undefined spelling member
    exact yields_false_of_isNaN leftNumeric rightNumeric undefined member
  case exact =>
    intro left right x y first second
    obtain ⟨less, -, -, -, equal⟩ := yields_of_exact first second
    exact ⟨less, equal⟩

/-- A letter equals the double of its code, since both equal the code. -/
theorem letter_equals_double :
    Yields "==" (char 'a') (int 97) true ∧ Yields "==" (int 97) (double 97) true ∧
      Yields "==" (char 'a') (double 97) true := by
  have code : Yields "==" (char 'a') (int 97) true := yields_equal_iff.mpr (by decide +kernel)
  have exact : Yields "==" (int 97) (double 97) true := yields_equal_iff.mpr (by decide +kernel)
  exact ⟨code, exact, comparisons_coherent.2.2.1 _ _ _ code exact⟩

end Value

end Stepwise
