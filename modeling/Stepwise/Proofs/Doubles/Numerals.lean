import Stepwise.Number.Layout
import Stepwise.Proofs.Doubles
import Stepwise.Proofs.Doubles.Digits

/-!
# The number that a text denotes

A decimal is read from its sign, its digits before and behind the point and its exponent. Whatever layout a decimal is
written in, the digits that are read are its own, perhaps with zeros around them, and the exponent makes up for where
the point stands. So the text denotes the decimal.
-/

namespace Stepwise.Number

set_option autoImplicit false

/-- A decimal as it is read: whether it is negative, its coefficient and its exponent. -/
def readDecimal? (chars : List Char) : Option (Bool × Nat × Int) := do
  let (negative, unsigned) := splitSign chars
  let (whole, fraction, after) ← spanDecimal unsigned
  let exponent ← readExponent after
  some (negative, digitsValue (whole ++ fraction), exponent - fraction.length)

/-- The number that a text denotes, if it is that of a decimal. -/
def denoted? (text : String) : Option ℚ :=
  (readDecimal? text.toList).map fun (negative, coefficient, exponent) => signed negative (coefficient * 10 ^ exponent)

/-- No digits go on in what follows. -/
def Stops (chars : List Char) : Prop := ∀ char ∈ chars.head?, char.isDigit = false ∧ char ≠ '_'

section Reading

variable {digits whole fraction after : List Char} {char : Char}

theorem spanDigits_of_stops (stops : Stops after) : spanDigits after = ([], after) := by
  cases after with
  | nil => rw [spanDigits]
  | cons char rest =>
      have other := (stops char rfl).1
      rw [spanDigits.eq_def]
      split <;> simp_all

theorem spanDigits_cons (digit : char.isDigit = true) (next : after.head? ≠ some '_') :
    spanDigits (char :: after) = (char :: (spanDigits after).1, (spanDigits after).2) := by
  rw [spanDigits.eq_def]
  split <;> simp_all

theorem ne_of_isDigit (digit : char.isDigit = true) (other : Char) (no : other.isDigit = false) : char ≠ other := by
  rintro rfl
  exact Bool.false_ne_true (no.symm.trans digit)

theorem spanDigits_append (only : ∀ char ∈ digits, char.isDigit = true) (stops : Stops after) :
    spanDigits (digits ++ after) = (digits, after) := by
  induction digits with
  | nil => exact spanDigits_of_stops stops
  | cons char digits ih =>
      have others : ∀ char ∈ digits, char.isDigit = true := fun char member => only char (List.mem_cons_of_mem _ member)
      have next : (digits ++ after).head? ≠ some '_' := by
        cases digits with
        | nil => exact fun low => (stops '_' low).2 rfl
        | cons second rest =>
            have digit := others second List.mem_cons_self
            exact fun low => ne_of_isDigit digit '_' rfl (Option.some.inj low)
      rw [List.cons_append, spanDigits_cons (only char List.mem_cons_self) next, ih others]

theorem stops_nil : Stops [] := nofun

theorem stops_cons (no : char.isDigit = false) (bar : char ≠ '_') : Stops (char :: after) := by
  rintro _ ⟨⟩
  exact ⟨no, bar⟩

theorem spanDecimal_point (first : Digits whole) (second : ∀ char ∈ fraction, char.isDigit = true)
    (stops : Stops after) :
    spanDecimal (whole ++ '.' :: (fraction ++ after)) = some (whole, fraction, after) := by
  have some : whole.isEmpty = false := by simpa using first.nonempty
  have point : Stops ('.' :: (fraction ++ after)) := stops_cons rfl (by decide)
  simp only [spanDecimal, spanDigits_append first.only point, spanDigits_append second stops, some, Bool.false_and,
    Bool.false_eq_true, if_false]

theorem spanDecimal_whole (first : Digits whole) (stops : Stops after) (noPoint : after.head? ≠ some '.') :
    spanDecimal (whole ++ after) = some (whole, [], after) := by
  have some : whole.isEmpty = false := by simpa using first.nonempty
  unfold spanDecimal
  rw [spanDigits_append first.only stops]
  cases after with
  | nil => simp [some]
  | cons char rest =>
      have other : char ≠ '.' := fun same => noPoint (congrArg Option.some same)
      simp [some, other]

theorem splitSign_of_isDigit (digit : char.isDigit = true) : splitSign (char :: after) = (false, char :: after) := by
  have noMinus := ne_of_isDigit digit '-' rfl
  have noPlus := ne_of_isDigit digit '+' rfl
  simp [splitSign, noMinus, noPlus]

theorem splitSign_digits (first : Digits whole) (after : List Char) :
    splitSign (whole ++ after) = (false, whole ++ after) := by
  cases whole with
  | nil => exact absurd rfl first.nonempty
  | cons char rest => exact splitSign_of_isDigit (first.only char List.mem_cons_self)

end Reading

theorem readExponent_exponentText {layout : Layout} (marked : layout.mark = 'e' ∨ layout.mark = 'E') (exponent : Int) :
    readExponent (layout.exponentText exponent) = some exponent := by
  unfold Layout.exponentText
  have value := (digitsValue_zeros_append (layout.exponentWidth - (Nat.toDigits 10 exponent.natAbs).length) _).trans
    (digitsValue_toDigits exponent.natAbs)
  have digits : Digits (List.replicate (layout.exponentWidth - (Nat.toDigits 10 exponent.natAbs).length) '0' ++
      Nat.toDigits 10 exponent.natAbs) := (digits_toDigits _).zeros_append _
  simp only
  generalize List.replicate _ '0' ++ Nat.toDigits 10 exponent.natAbs = padded at value digits ⊢
  have read : spanDigits padded = (padded, []) := by
    have all := spanDigits_append digits.only stops_nil
    rwa [List.append_nil] at all
  have split : splitSign ((if exponent < 0 then ['-'] else if layout.plusSign then ['+'] else []) ++ padded) =
      (decide (exponent < 0), padded) := by
    by_cases negative : exponent < 0
    · simp [negative, splitSign]
    · by_cases plus : layout.plusSign
      · simp [negative, plus, splitSign]
      · have unsigned := splitSign_digits digits []
        rw [List.append_nil] at unsigned
        simp [negative, plus, unsigned]
  have some : padded.isEmpty = false := by simpa using digits.nonempty
  simp only [readExponent, marked, if_true, split, read, some, List.isEmpty_nil, Bool.not_true, Bool.or_false,
    Bool.false_eq_true, if_false, value, decide_eq_true_eq, Option.some.injEq]
  split <;> omega

theorem stops_exponentText {layout : Layout} (marked : layout.mark = 'e' ∨ layout.mark = 'E') (exponent : Int) :
    Stops (layout.exponentText exponent) := by
  refine stops_cons ?_ ?_ <;> rcases marked with mark | mark <;> rw [mark] <;> decide

/-- The text is read as the number of that sign and magnitude. -/
def ReadsAs (negative : Bool) (value : ℚ) (chars : List Char) : Prop :=
  ∃ coefficient exponent, readDecimal? chars = some (negative, coefficient, exponent) ∧
    (coefficient * 10 ^ exponent : ℚ) = value

theorem readsAs_signed {chars whole fraction after : List Char} {exponent : Int} {value : ℚ}
    (unsigned : splitSign chars = (false, chars)) (split : spanDecimal chars = some (whole, fraction, after))
    (read : readExponent after = some exponent)
    (same : (digitsValue (whole ++ fraction) * 10 ^ (exponent - fraction.length) : ℚ) = value) (negative : Bool) :
    ReadsAs negative value ((if negative then ['-'] else []) ++ chars) := by
  have sign : splitSign ((if negative then ['-'] else []) ++ chars) = (negative, chars) := by
    cases negative with
    | false => exact unsigned
    | true => rfl
  exact ⟨_, _, by rw [readDecimal?, sign]; simp only [split, read, bind, Option.bind], same⟩

theorem readsAs_point {whole fraction after : List Char} {exponent : Int} {value : ℚ} (first : Digits whole)
    (second : ∀ char ∈ fraction, char.isDigit = true) (stops : Stops after) (read : readExponent after = some exponent)
    (same : (digitsValue (whole ++ fraction) * 10 ^ (exponent - fraction.length) : ℚ) = value) (negative : Bool) :
    ReadsAs negative value ((if negative then ['-'] else []) ++ (whole ++ '.' :: (fraction ++ after))) :=
  readsAs_signed (splitSign_digits first _) (spanDecimal_point first second stops) read same negative

section Written

variable {coefficient : Nat} {exponent : Int}

/-- With the point at its place the digits of a decimal stand around it. -/
theorem positional_eq (coefficient : Nat) (exponent : Int) :
    ∃ whole fraction, Digits whole ∧ Digits fraction ∧
      (Decimal.scaled coefficient exponent).positional = whole ++ '.' :: fraction ∧
      (digitsValue (whole ++ fraction) * 10 ^ (0 - fraction.length : Int) : ℚ) = coefficient * 10 ^ exponent := by
  have digits := digits_toDigits coefficient
  have value := digitsValue_toDigits coefficient
  unfold Decimal.positional Decimal.scaled digitCount
  simp only
  generalize Nat.toDigits 10 coefficient = chars at digits value ⊢
  have long : 0 < chars.length := List.length_pos_iff.mpr digits.nonempty
  split
  case isTrue small =>
    refine ⟨['0'], List.replicate (-(chars.length + exponent)).toNat '0' ++ chars, digits_zero,
      digits.zeros_append _, rfl, ?_⟩
    have zeros := digitsValue_zeros_append (1 + (-(chars.length + exponent)).toNat) chars
    rw [← List.replicate_append_replicate, List.append_assoc, value] at zeros
    rw [show ['0'] = List.replicate 1 '0' from rfl, zeros, List.length_append, List.length_replicate]
    congr 2
    omega
  case isFalse positive =>
    split
    case isTrue whole =>
      obtain ⟨places, rfl⟩ := Int.eq_ofNat_of_zero_le (by omega : 0 ≤ exponent)
      refine ⟨chars ++ List.replicate places '0', ['0'], digits.append fun _ => isDigit_of_mem_zeros, digits_zero,
        ?_, ?_⟩
      · simp
      · have zeros := digitsValue_append_zeros chars (places + 1)
        rw [List.replicate_succ', ← List.append_assoc, value] at zeros
        have tenth : (10 : ℚ) ^ (0 - (['0'].length : Int)) = 10⁻¹ := zpow_neg_one 10
        rw [zeros, zpow_natCast, tenth]
        push_cast
        ring
    case isFalse inside =>
      refine ⟨chars.take (chars.length + exponent).toNat, chars.drop (chars.length + exponent).toNat, ⟨?_, ?_⟩,
        ⟨?_, ?_⟩, rfl, ?_⟩
      · rw [← List.length_pos_iff, List.length_take]
        omega
      · exact fun char member => digits.only char (List.mem_of_mem_take member)
      · rw [← List.length_pos_iff, List.length_drop]
        omega
      · exact fun char member => digits.only char (List.mem_of_mem_drop member)
      · rw [List.take_append_drop, value, List.length_drop]
        congr 2
        omega

/-- In the scientific layout one digit stands before the point, if there is a point, and then the exponent. -/
theorem scientific_eq (layout : Layout) {coefficient : Nat} (exponent : Int) (last : coefficient % 10 ≠ 0) :
    let written := layout.scientific (.scaled coefficient exponent)
    let power := layout.exponentText (digitCount coefficient + exponent - 1)
    ∃ lead : Char, lead.isDigit = true ∧ lead ≠ '0' ∧
      (layout.fractionAlways = false ∧ written = [lead] ++ power ∧ coefficient = digitsValue [lead] ∧
          digitCount coefficient = 1 ∨
        ∃ fraction, Digits fraction ∧ (fraction = ['0'] ∨ fraction.getLast? ≠ some '0') ∧
          written = [lead] ++ '.' :: (fraction ++ power) ∧
          (digitsValue ([lead] ++ fraction) *
              10 ^ (digitCount coefficient + exponent - 1 - fraction.length : Int) : ℚ) =
            coefficient * 10 ^ exponent) := by
  have digits := digits_toDigits coefficient
  have value := digitsValue_toDigits coefficient
  have first := head?_toDigits (pos_of_last last)
  have final := getLast?_toDigits last
  unfold Layout.scientific Decimal.scaled digitCount
  simp only
  generalize Nat.toDigits 10 coefficient = chars at digits value first final ⊢
  cases chars with
  | nil => exact absurd rfl digits.nonempty
  | cons lead rest =>
      refine ⟨lead, digits.only lead List.mem_cons_self, fun zero => first (congrArg some zero), ?_⟩
      cases rest with
      | nil =>
          cases always : layout.fractionAlways with
          | false => exact .inl ⟨rfl, by simp, value.symm, rfl⟩
          | true =>
              refine .inr ⟨['0'], digits_zero, .inl rfl, by simp, ?_⟩
              have zeros : digitsValue ([lead] ++ ['0']) = coefficient * 10 ^ 1 :=
                value ▸ digitsValue_append_zeros [lead] 1
              have places : ([lead].length + exponent - 1 - ['0'].length : Int) = exponent - 1 := by
                simp only [List.length_singleton]
                omega
              rw [zeros, places, zpow_sub_one₀ (by norm_num)]
              push_cast
              ring
      | cons second others =>
          refine .inr ⟨second :: others, ⟨by simp, fun char member => digits.only char (List.mem_cons_of_mem _ member)⟩,
            .inr ?_, by simp, ?_⟩
          · rwa [List.getLast?_cons_cons] at final
          · rw [List.singleton_append, value]
            congr 2
            simp only [List.length_cons]
            omega

/-- Whatever its layout, the text of a decimal denotes it. -/
theorem readsAs_magnitude (layout : Layout) (marked : layout.mark = 'e' ∨ layout.mark = 'E') {coefficient : Nat}
    (exponent : Int) (last : coefficient % 10 ≠ 0) (negative : Bool) :
    ReadsAs negative (coefficient * 10 ^ exponent) ((if negative then ['-'] else []) ++
      layout.magnitude (.scaled coefficient exponent)) := by
  have stops := stops_exponentText marked (digitCount coefficient + exponent - 1)
  have read := readExponent_exponentText marked (digitCount coefficient + exponent - 1)
  rw [Layout.magnitude, Decimal.point_scaled]
  by_cases positional : layout.lowest ≤ digitCount coefficient + exponent - 1 ∧
      digitCount coefficient + exponent - 1 ≤ layout.highest
  · obtain ⟨whole, fraction, first, second, written, value⟩ := positional_eq coefficient exponent
    have all := readsAs_point first second.only stops_nil rfl value negative
    rw [List.append_nil, ← written] at all
    rw [if_pos positional]
    exact all
  · rw [if_neg positional]
    obtain ⟨lead, digit, -, ⟨-, written, value, single⟩ | ⟨fraction, second, -, written, value⟩⟩ :=
      scientific_eq layout exponent last
    · have first : Digits [lead] := ⟨by simp, by simpa using digit⟩
      have noPoint : (layout.exponentText (digitCount coefficient + exponent - 1)).head? ≠ some '.' := by
        rcases marked with mark | mark <;> simp [Layout.exponentText, mark]
      have unsigned := splitSign_digits first (layout.exponentText (digitCount coefficient + exponent - 1))
      have same : (digitsValue ([lead] ++ []) *
          10 ^ (digitCount coefficient + exponent - 1 - ([] : List Char).length : Int) : ℚ) =
            coefficient * 10 ^ exponent := by
        rw [List.append_nil, ← value, single]
        congr 2
        simp
      rw [written]
      exact readsAs_signed unsigned (spanDecimal_whole first stops noPoint) read same negative
    · rw [written]
      exact readsAs_point ⟨by simp, by simpa using digit⟩ second.only stops read value negative

end Written

end Stepwise.Number
