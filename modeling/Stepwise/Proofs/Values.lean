import Stepwise.Operator

/-!
# Values and conversion

Conversion to a type is done once: what it yields, it leaves alone. So a value fits a type exactly when it could be
the outcome of a conversion to it, and a value that fits a numeric type is of no other numeric kind.

Values that stand for themselves hold no text and refer to nothing. Default values and the results of operators with
one operand are of that sort.
-/

namespace Stepwise

set_option autoImplicit false

/-- A failure that does not come from a handle without a record or from a malformed character literal. -/
def Failure.Benign : Failure → Prop
  | .fault .missingHandle | .fault (.malformedCharacter _) => False
  | _ => True

theorem benign_of_liftFault {α : Type} {outcome : Except Fault α} {failure : Failure}
    (harmless : ∀ fault, outcome = .error fault → (Failure.fault fault).Benign)
    (failed : liftFault outcome = .error failure) : failure.Benign := by
  cases outcome with
  | ok value => cases failed
  | error fault =>
      cases failed
      exact harmless fault rfl

theorem Number.benign_of_integerText {integer : Int} {failure : Failure}
    (failed : liftFault (Number.integerText integer) = .error failure) : failure.Benign := by
  refine benign_of_liftFault ?_ failed
  intro fault raised
  unfold Number.integerText at raised
  by_cases long : maxIntegerDigits < (Nat.toDigits 10 integer.natAbs).length
  · rw [if_pos long] at raised
    cases raised
    trivial
  · rw [if_neg long] at raised
    cases raised

/-- The kinds of values that a place of the type turns into others. -/
def Primitive.converts : Primitive → List Kind
  | .integer => [.double, .char]
  | .double => [.int, .char]
  | .boolean => []
  | .char => [.int]

namespace Value

/-- The value stands for itself: it is neither a reference, nor a text, nor a class. -/
def IsPlain : Value → Prop
  | .ref _ | .string _ | .class_ .. => False
  | _ => True

/-- Conversion to the type leaves the value as it is. -/
def Fits (typeName : Option String) (value : Value) : Prop :=
  value.coerce typeName = .ok value

theorem map_eq_ok {α β : Type} {change : α → β} {outcome : Except Failure α} {result : β}
    (mapped : change <$> outcome = .ok result) : ∃ value, outcome = .ok value ∧ result = change value := by
  cases outcome with
  | ok value =>
      cases mapped
      exact ⟨value, rfl, rfl⟩
  | error failure => cases mapped

theorem bind_eq_ok {α β : Type} {outcome : Except Failure α} {next : α → Except Failure β} {result : β}
    (ended : outcome >>= next = .ok result) : ∃ value, outcome = .ok value ∧ next value = .ok result := by
  cases outcome with
  | ok value => exact ⟨value, rfl, ended⟩
  | error failure => cases ended

/-- Conversion to a primitive type yields a value of that type, or the value as it was, and then does so again. -/
theorem coerceTo_cases {primitive : Primitive} {value stored : Value}
    (coerced : coerceTo primitive value = .ok stored) :
    (primitive = .integer ∧ ∃ integer, stored = int integer) ∨
    (primitive = .double ∧ ∃ number, stored = double number) ∨
    (primitive = .char ∧ ∃ character, stored = char character) ∨
    (stored = value ∧ coerceTo primitive value = .ok value) := by
  have whole := coerced
  unfold coerceTo at coerced
  split at coerced
  · obtain ⟨number, -, rfl⟩ := map_eq_ok coerced
    exact .inr (.inl ⟨rfl, number, rfl⟩)
  · obtain ⟨number, -, rfl⟩ := map_eq_ok coerced
    exact .inr (.inl ⟨rfl, number, rfl⟩)
  · obtain ⟨integer, -, rfl⟩ := map_eq_ok coerced
    exact .inl ⟨rfl, integer, rfl⟩
  · cases coerced
    exact .inl ⟨rfl, _, rfl⟩
  · split at coerced
    · cases coerced
      exact .inr (.inr (.inl ⟨rfl, _, rfl⟩))
    · cases coerced
      exact .inr (.inr (.inr ⟨rfl, whole⟩))
  · cases coerced
    exact .inr (.inr (.inr ⟨rfl, whole⟩))

theorem coerceTo_coerceTo {primitive : Primitive} {value stored : Value}
    (coerced : coerceTo primitive value = .ok stored) : coerceTo primitive stored = .ok stored := by
  rcases coerceTo_cases coerced with ⟨rfl, integer, rfl⟩ | ⟨rfl, number, rfl⟩ | ⟨rfl, character, rfl⟩ | ⟨rfl, again⟩
  · rfl
  · rfl
  · rfl
  · exact again

theorem fits_of_coerce {typeName : Option String} {value stored : Value}
    (coerced : value.coerce typeName = .ok stored) : stored.Fits typeName := by
  unfold Fits coerce at *
  cases named : typeName.bind Primitive.ofName? with
  | none => rfl
  | some primitive =>
      rw [named] at coerced
      exact coerceTo_coerceTo coerced

theorem plain_or_eq_of_coerceTo {primitive : Primitive} {value stored : Value}
    (coerced : coerceTo primitive value = .ok stored) : stored.IsPlain ∨ stored = value := by
  rcases coerceTo_cases coerced with ⟨-, integer, rfl⟩ | ⟨-, number, rfl⟩ | ⟨-, character, rfl⟩ | ⟨same, -⟩
  · exact .inl trivial
  · exact .inl trivial
  · exact .inl trivial
  · exact .inr same

theorem plain_or_eq_of_coerce {typeName : Option String} {value stored : Value}
    (coerced : value.coerce typeName = .ok stored) : stored.IsPlain ∨ stored = value := by
  unfold coerce at coerced
  split at coerced
  · exact plain_or_eq_of_coerceTo coerced
  · cases coerced
    exact .inr rfl

theorem plain_or_eq_of_narrowedLike {current result stored : Value}
    (narrowed : current.narrowedLike result = .ok stored) : stored.IsPlain ∨ stored = result := by
  unfold narrowedLike at narrowed
  split at narrowed
  · exact plain_or_eq_of_coerceTo narrowed
  · exact plain_or_eq_of_coerceTo narrowed
  · cases narrowed
    exact .inr rfl

theorem default_fits (typeName : String) : (Value.default typeName).Fits (some typeName) := by
  unfold Fits Value.default coerce
  rw [Option.bind_some]
  cases Primitive.ofName? typeName with
  | none => rfl
  | some primitive => cases primitive <;> rfl

theorem default_isPlain (typeName : String) : (Value.default typeName).IsPlain := by
  unfold Value.default
  cases Primitive.ofName? typeName with
  | none => trivial
  | some primitive => cases primitive <;> trivial

/-- The value is no number of a kind that a numeric type excludes. -/
def InKind (typeName : String) (value : Value) : Prop :=
  (typeName = "double" → value.kind ≠ .int ∧ value.kind ≠ .char) ∧
    (typeName = "int" ∨ typeName = "long" → value.kind ≠ .double ∧ value.kind ≠ .char)

/-- A place takes a value as it is if it does not convert its kind. Only a place for characters also keeps some of the
integers, those that are no codes. -/
theorem coerceTo_eq_self_iff {primitive : Primitive} (other : primitive ≠ .char) {value : Value} :
    coerceTo primitive value = .ok value ↔ value.kind ∉ primitive.converts := by
  constructor
  · intro kept member
    cases primitive with
    | integer =>
        cases value with
        | double number =>
            obtain ⟨integer, -, impossible⟩ := map_eq_ok kept
            cases impossible
        | char point => cases kept
        | _ => simp [kind, Primitive.converts] at member
    | double =>
        cases value with
        | int | char =>
            obtain ⟨number, -, impossible⟩ := map_eq_ok kept
            cases impossible
        | _ => simp [kind, Primitive.converts] at member
    | boolean => cases member
    | char => exact other rfl
  · intro apart
    cases primitive with
    | boolean => rfl
    | char => exact absurd rfl other
    | integer | double =>
        cases value <;> first | rfl | exact absurd (by simp [kind, Primitive.converts]) apart

theorem Fits.inKind {typeName : String} {value : Value} (fits : value.Fits (some typeName)) :
    value.InKind typeName := by
  have taken : ∀ primitive, (some typeName).bind Primitive.ofName? = some primitive →
      coerceTo primitive value = .ok value := by
    intro primitive named
    unfold Fits coerce at fits
    rwa [named] at fits
  refine ⟨?_, fun integral => ?_⟩
  · rintro rfl
    have kept := (coerceTo_eq_self_iff (by decide)).mp (taken .double (by decide))
    simpa [Primitive.converts] using kept
  · have kept := (coerceTo_eq_self_iff (by decide)).mp (taken .integer (if_pos integral))
    simpa [Primitive.converts] using kept

theorem benign_of_withinDoubles {nearest : Option Float} {failure : Failure}
    (failed : withinDoubles nearest = .error failure) : failure.Benign := by
  cases nearest with
  | some number => cases failed
  | none =>
      cases failed
      trivial

theorem benign_of_toDouble {number : Numeric} {failure : Failure} (failed : number.toDouble = .error failure) :
    failure.Benign := by
  cases number with
  | double number => cases failed
  | integral integer => exact benign_of_withinDoubles failed

theorem map_eq_error {α β : Type} {change : α → β} {outcome : Except Failure α} {failure : Failure}
    (mapped : change <$> outcome = .error failure) : outcome = .error failure := by
  cases outcome with
  | ok value => cases mapped
  | error cause =>
      cases mapped
      rfl

theorem benign_of_coerceTo {primitive : Primitive} {value : Value} {failure : Failure}
    (failed : coerceTo primitive value = .error failure) : failure.Benign := by
  unfold coerceTo at failed
  split at failed
  · exact benign_of_toDouble (map_eq_error failed)
  · exact benign_of_toDouble (map_eq_error failed)
  · have infinite := map_eq_error failed
    unfold integerPart at infinite
    split at infinite
    · cases infinite
    · cases infinite
      trivial
    · cases infinite
  · cases failed
  · split at failed <;> cases failed
  · cases failed

theorem benign_of_coerce {typeName : Option String} {value : Value} {failure : Failure}
    (failed : value.coerce typeName = .error failure) : failure.Benign := by
  unfold coerce at failed
  split at failed
  · exact benign_of_coerceTo failed
  · cases failed

theorem benign_of_narrowedLike {current result : Value} {failure : Failure}
    (failed : current.narrowedLike result = .error failure) : failure.Benign := by
  unfold narrowedLike at failed
  split at failed
  · exact benign_of_coerceTo failed
  · exact benign_of_coerceTo failed
  · cases failed

/-- An operator that succeeds yields a truth value, computes with two numbers, or joins texts. -/
theorem binary_eq_ok {heap : Heap} {line : Nat} {spelling : String} {left right result : Value}
    (applied : binary heap line spelling left right = .ok result) :
    (∃ truth, result = bool truth) ∨
    (∃ operation one two, left.numeric? = some one ∧ right.numeric? = some two ∧
      numericArithmetic line operation one two = .ok result) ∨
    joined heap left right = .ok result := by
  unfold binary at applied
  split at applied
  · unfold applyBinary at applied
    split at applied
    · cases applied
      exact .inl ⟨_, rfl⟩
    · cases applied
      exact .inl ⟨_, rfl⟩
    · next first second _ => exact .inr (.inl ⟨_, _, _, first, second, applied⟩)
    · cases applied
      exact .inl ⟨_, rfl⟩
    · exact .inr (.inr applied)
    · cases applied
  · cases applied

theorem binary_plus {heap : Heap} {left right : Value} (line : Nat)
    (apart : left.numeric? = none ∨ right.numeric? = none) :
    binary heap line "+" left right = joined heap left right := by
  have named : BinaryOperator.ofSpelling? "+" = some (.arithmetic .add) := by decide
  unfold binary
  rw [named]
  unfold applyBinary
  rcases apart with absent | absent
  · rw [absent]
  · rw [absent]
    cases left.numeric? <;> rfl

theorem unary_isPlain {line : Nat} {operator : String} {value result : Value}
    (applied : value.unary line operator = .ok result) : result.IsPlain := by
  unfold unary at applied
  split at applied
  · split at applied
    · cases applied
      trivial
    · cases applied
  · split at applied
    · cases applied
      trivial
    · cases applied
      trivial
    · cases applied
  · cases applied

theorem benign_of_unary {line : Nat} {operator : String} {value : Value} {failure : Failure}
    (failed : value.unary line operator = .error failure) : failure.Benign := by
  unfold unary at failed
  split at failed
  · split at failed
    · cases failed
    · cases failed
      trivial
  · split at failed
    · cases failed
    · cases failed
    · cases failed
      trivial
  · cases failed
    trivial

theorem stepped_isPlain {line : Nat} {operator : String} {value result : Value}
    (applied : value.stepped line operator = .ok result) : result.IsPlain := by
  cases value with
  | char character =>
      simp only [stepped] at applied
      split at applied
      · cases applied
        trivial
      · cases applied
  | double number | int integer =>
      cases applied
      trivial
  | bool truth | string raw | null | ref handle | void | class_ name methods => cases applied

theorem benign_of_stepped {line : Nat} {operator : String} {value : Value} {failure : Failure}
    (failed : value.stepped line operator = .error failure) : failure.Benign := by
  cases value with
  | char character =>
      simp only [stepped] at failed
      split at failed
      · cases failed
      · cases failed
        trivial
  | double number | int integer => cases failed
  | bool truth | string raw | null | ref handle | void | class_ name methods =>
      cases failed
      trivial

end Value

end Stepwise
