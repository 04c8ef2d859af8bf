import Mathlib.Algebra.Group.Nat.Even
import Mathlib.Tactic.ByContra
import Stepwise.Number.Literal
import Stepwise.Number.Shortest

/-!
# Decimal digits

The digits of a natural number tell its size, begin with one that is not zero, and are read back as the number.
-/

namespace Stepwise.Number

set_option autoImplicit false

theorem digitCount_pos (number : Nat) : 0 < digitCount number := Nat.length_toDigits_pos

theorem lt_pow_digitCount (number : Nat) : number < 10 ^ digitCount number :=
  (Nat.length_toDigits_le_iff (by decide) (digitCount_pos number)).mp le_rfl

theorem pow_digitCount_le {number : Nat} (positive : 0 < number) : 10 ^ (digitCount number - 1) ≤ number := by
  by_contra! below
  rcases Nat.eq_zero_or_pos (digitCount number - 1) with single | longer
  · rw [single] at below
    omega
  · have shorter : digitCount number ≤ digitCount number - 1 :=
      (Nat.length_toDigits_le_iff (by decide) longer).mpr below
    have := digitCount_pos number
    omega

theorem digitChar_eq_zero_iff {digit : Nat} (small : digit < 10) : digit.digitChar = '0' ↔ digit = 0 := by
  revert digit
  decide

theorem head?_toDigits {number : Nat} (positive : 0 < number) : (Nat.toDigits 10 number).head? ≠ some '0' := by
  induction number using Nat.strong_induction_on with
  | _ number ih =>
    rw [Nat.toDigits_eq_if (by decide)]
    split
    case isTrue single =>
      intro zero
      exact Nat.ne_of_gt positive ((digitChar_eq_zero_iff single).mp (Option.some.inj zero))
    case isFalse longer =>
      rw [List.head?_append]
      have before : Nat.toDigits 10 (number / 10) ≠ [] := Nat.toDigits_ne_nil
      obtain ⟨first, there⟩ := Option.ne_none_iff_exists'.mp (mt List.head?_eq_none_iff.mp before)
      rw [there, Option.some_or, ← there]
      exact ih (number / 10) (by omega) (by omega)

theorem pos_of_last {number : Nat} (nonzero : number % 10 ≠ 0) : 0 < number := by
  omega

theorem getLast?_toDigits {number : Nat} (nonzero : number % 10 ≠ 0) :
    (Nat.toDigits 10 number).getLast? ≠ some '0' := by
  have last : (number % 10).digitChar ≠ '0' := mt (digitChar_eq_zero_iff (Nat.mod_lt _ (by decide))).mp nonzero
  rw [Nat.toDigits_eq_if (by decide)]
  split
  case isTrue single =>
    rw [Nat.mod_eq_of_lt single] at last
    exact fun zero => last (Option.some.inj zero)
  case isFalse =>
    rw [List.getLast?_append]
    exact fun zero => last (Option.some.inj zero)

structure Digits (chars : List Char) : Prop where
  nonempty : chars ≠ []
  only : ∀ char ∈ chars, char.isDigit = true

theorem digitsValue_eq (digits : List Char) : digitsValue digits = Nat.ofDigitChars 10 digits 0 := by
  rw [digitsValue, Nat.ofDigitChars]
  congr 1
  funext value digit
  rw [Nat.mul_comm]
  rfl

theorem digitsValue_toDigits (number : Nat) : digitsValue (Nat.toDigits 10 number) = number := by
  rw [digitsValue_eq, Nat.ofDigitChars_ten_toDigits]

theorem digitsValue_zeros_append (count : Nat) (digits : List Char) :
    digitsValue (List.replicate count '0' ++ digits) = digitsValue digits := by
  rw [digitsValue_eq, Nat.ofDigitChars_append, Nat.ofDigitChars_replicate_zero, Nat.mul_zero, ← digitsValue_eq]

theorem digitsValue_append_zeros (digits : List Char) (count : Nat) :
    digitsValue (digits ++ List.replicate count '0') = digitsValue digits * 10 ^ count := by
  rw [digitsValue_eq, Nat.ofDigitChars_append, Nat.ofDigitChars_replicate_zero, ← digitsValue_eq, Nat.mul_comm]

theorem digits_toDigits (number : Nat) : Digits (Nat.toDigits 10 number) :=
  ⟨Nat.toDigits_ne_nil, fun _ member => Nat.isDigit_of_mem_toDigits (by decide) (by decide) member⟩

theorem Digits.append {one two : List Char} (first : Digits one) (second : ∀ char ∈ two, char.isDigit = true) :
    Digits (one ++ two) where
  nonempty := by simp [first.nonempty]
  only char member := (List.mem_append.mp member).elim (first.only char) (second char)

theorem digits_zero : Digits ['0'] where
  nonempty := List.cons_ne_nil _ _
  only char member := by
    rw [List.mem_singleton.mp member]
    rfl

theorem isDigit_of_mem_zeros {count : Nat} {char : Char} (member : char ∈ List.replicate count '0') :
    char.isDigit = true := by
  rw [List.eq_of_mem_replicate member]
  rfl

theorem Digits.zeros_append {chars : List Char} (digits : Digits chars) (count : Nat) :
    Digits (List.replicate count '0' ++ chars) where
  nonempty := by simp [digits.nonempty]
  only char member := (List.mem_append.mp member).elim isDigit_of_mem_zeros (digits.only char)

/-- The decimal of a coefficient and an exponent, with all digits of the coefficient. -/
def Decimal.scaled (coefficient : Nat) (exponent : Int) : Decimal where
  digits := Nat.toDigits 10 coefficient
  point := digitCount coefficient + exponent

theorem Decimal.point_scaled (coefficient : Nat) (exponent : Int) :
    (Decimal.scaled coefficient exponent).point = digitCount coefficient + exponent := rfl

end Stepwise.Number
