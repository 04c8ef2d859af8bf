import Stepwise.Proofs.Doubles.Numerals
import Stepwise.Proofs.Doubles.Shortest

/-!
# Console text of doubles

The console text of a finite double denotes its shortest decimal, the one its text in a document denotes too. Only
the layout differs: on the console a magnitude from a thousandth up to below ten million is written with its point in
place, and any other with one digit before the point and an exponent. Since the shortest decimal is read as the double
it was made from, different doubles have different texts.
-/

namespace Stepwise.Number

set_option autoImplicit false

/-- The exact value of a double that is finite. -/
def finiteValue? (number : Float) : Option ℚ :=
  match Parts.ofFloat number with
  | .finite negative mantissa shift => some (signed negative (magnitude mantissa shift))
  | _ => none

/-- The decimal is read as the double, in at most seventeen digits and in as few as any decimal that is, and of those
it lies closest to the exact value. -/
structure IsShortest (number : Float) (value : ℚ) (coefficient : Nat) (exponent : Int) : Prop where
  rounds : ofDecimal (decide (value < 0)) coefficient exponent = number
  short : digitCount coefficient ≤ 17
  least : ∀ other place, ofDecimal (decide (value < 0)) other place = number → digitCount coefficient ≤ digitCount other
  closest : ∀ other place, ofDecimal (decide (value < 0)) other place = number →
    digitCount other = digitCount coefficient →
      |coefficient * 10 ^ exponent - abs value| ≤ |other * 10 ^ place - abs value|

/-- Digits on both sides of a point. -/
def Positional (chars : List Char) : Prop :=
  ∃ whole fraction, Digits whole ∧ Digits fraction ∧ chars = whole ++ '.' :: fraction

/-- A digit other than zero, a point, a fraction with no zero at its end unless it is a single one, and an exponent. -/
def Scientific (chars : List Char) : Prop :=
  ∃ lead fraction, ∃ exponent : Int, lead.isDigit = true ∧ lead ≠ '0' ∧
    Digits fraction ∧ (fraction = ['0'] ∨ fraction.getLast? ≠ some '0') ∧
    chars = lead :: '.' :: (fraction ++ 'E' ::
      ((if exponent < 0 then ['-'] else []) ++ Nat.toDigits 10 exponent.natAbs))

section Thresholds

variable {code coefficient : Nat} {exponent power : Int}

/-- The best decimal has reached a power of ten if the magnitude has, as long as the power is not rounded downwards. -/
theorem Best.reaches_iff (best : Best code coefficient exponent)
    (upwards : ∀ rounded, RoundsTo (10 ^ power * oneInUnits) rounded → 10 ^ power ≤ exactly rounded) :
    (10 : ℚ) ^ power ≤ coefficient * 10 ^ exponent ↔ 10 ^ power ≤ exactly code := by
  have one : ((1 : Nat) : ℚ) * 10 ^ power = 10 ^ power := by rw [Nat.cast_one, one_mul]
  constructor
  · intro reached
    by_contra! below
    have fits := (best.fits.falling 1 power (below.le.trans_eq one.symm) (one.trans_le reached)).1
    rw [Fits, one] at fits
    exact absurd (upwards code fits) below.not_ge
  · intro reached
    by_contra! below
    -- the power itself would be a decimal of one digit, and closer
    have fits := (best.fits.rising 1 power (below.le.trans_eq one.symm) (one.trans_le reached)).1
    have single : digitCount 1 = digitCount coefficient :=
      Nat.le_antisymm (digitCount_pos coefficient) (best.least 1 power fits)
    have closer := best.closest 1 power fits single
    rw [distance, distance, one, abs_of_nonpos (by linarith), abs_of_nonpos (by linarith)] at closer
    linarith

theorem le_point_iff (nonzero : 0 < coefficient) :
    power ≤ digitCount coefficient + exponent - 1 ↔ (10 : ℚ) ^ power ≤ coefficient * 10 ^ exponent := by
  obtain ⟨low, high⟩ := decimal_bounds nonzero exponent
  constructor
  · intro reached
    exact (zpow_le_zpow_right₀ (by norm_num) reached).trans low
  · intro reached
    have := (zpow_lt_zpow_iff_right₀ (by norm_num)).mp (reached.trans_lt high)
    omega

theorem million_exact : level 4711630319722168320 = 10 ^ 7 * unitsPerOne := by decide +kernel

/-- A thousandth is none, and the one that it rounds to is greater. -/
theorem thousandth_bounds :
    1000 * boundary 4562254508917369340 < 2 * unitsPerOne ∧
      2 * unitsPerOne < 1000 * boundary (4562254508917369340 + 1) ∧
      unitsPerOne ≤ 1000 * level 4562254508917369340 := by decide +kernel

theorem upwards (rounds : RoundsTo (10 ^ power * oneInUnits) code) (above : (10 : ℚ) ^ power * oneInUnits ≤ level code)
    (rounded : Nat) (also : RoundsTo (10 ^ power * oneInUnits) rounded) : (10 : ℚ) ^ power ≤ exactly rounded := by
  rw [← rounds.unique also, exactly, le_div_iff₀ oneInUnits_pos]
  exact above

theorem million_upwards (rounded : Nat) (rounds : RoundsTo (10 ^ (7 : Int) * oneInUnits) rounded) :
    (10 : ℚ) ^ (7 : Int) ≤ exactly rounded := by
  have there : (10 ^ (7 : Int) * oneInUnits : ℚ) = level 4711630319722168320 := by
    rw [million_exact, Nat.cast_mul, oneInUnits, Nat.cast_pow]
    rfl
  have here : RoundsTo (10 ^ (7 : Int) * oneInUnits) 4711630319722168320 := by
    rw [there]
    exact .level _
  exact upwards here there.le rounded rounds

theorem thousandth_upwards (rounded : Nat) (rounds : RoundsTo (10 ^ (-3 : Int) * oneInUnits) rounded) :
    (10 : ℚ) ^ (-3 : Int) ≤ exactly rounded := by
  obtain ⟨low, high, above⟩ := thousandth_bounds
  have thousandth : (10 : ℚ) ^ (-3 : Int) = 1 / 1000 := by norm_num
  suffices here : RoundsTo (10 ^ (-3 : Int) * oneInUnits) 4562254508917369340 ∧
      (10 : ℚ) ^ (-3 : Int) * oneInUnits ≤ level 4562254508917369340 from upwards here.1 here.2 rounded rounds
  rw [thousandth]
  refine ⟨.of_lt ?_ ?_, ?_⟩
  · have low' : (1000 * boundary 4562254508917369340 : ℚ) < 2 * oneInUnits := by
      unfold oneInUnits
      exact_mod_cast low
    linarith
  · have high' : 2 * oneInUnits < 1000 * boundary (4562254508917369340 + 1) := by
      unfold oneInUnits
      exact_mod_cast high
    linarith
  · have above' : oneInUnits ≤ 1000 * level 4562254508917369340 := by
      unfold oneInUnits
      exact_mod_cast above
    linarith

end Thresholds

section Shape

variable {chars whole fraction after : List Char}

theorem Digits.not_mem_point (digits : Digits chars) : '.' ∉ chars :=
  fun member => Bool.false_ne_true (digits.only '.' member)

theorem Digits.head_ne_minus (digits : Digits whole) : (whole ++ after).head? ≠ some '-' := by
  cases whole with
  | nil => exact absurd rfl digits.nonempty
  | cons char rest =>
      have digit := digits.only char List.mem_cons_self
      exact fun minus => ne_of_isDigit digit '-' rfl (Option.some.inj minus)

theorem console_exponentText (exponent : Int) :
    Layout.console.exponentText exponent =
      'E' :: ((if exponent < 0 then ['-'] else []) ++ Nat.toDigits 10 exponent.natAbs) := by
  have long : 1 - (Nat.toDigits 10 exponent.natAbs).length = 0 := by
    have := Nat.length_toDigits_pos (b := 10) (n := exponent.natAbs)
    omega
  simp only [Layout.exponentText, Layout.console, long, List.replicate_zero, List.nil_append, Bool.false_eq_true,
    if_false]

/-- A numeral has one point, and its sign in front. -/
structure Pointed (chars : List Char) : Prop where
  unsigned : chars.head? ≠ some '-'
  single : chars.count '.' = 1

theorem pointed (first : Digits whole) (second : Digits fraction) (none : '.' ∉ after) :
    Pointed (whole ++ '.' :: (fraction ++ after)) where
  unsigned := first.head_ne_minus
  single := by
    rw [List.count_append, List.count_cons_self, List.count_append, List.count_eq_zero.mpr first.not_mem_point,
      List.count_eq_zero.mpr second.not_mem_point, List.count_eq_zero.mpr none]

/-- Console text has its point in place in the range of the layout, and an exponent beyond it. -/
theorem magnitude_shape {coefficient : Nat} (exponent : Int) (last : coefficient % 10 ≠ 0) :
    let chars := Layout.console.magnitude (.scaled coefficient exponent)
    Pointed chars ∧
      if -3 ≤ digitCount coefficient + exponent - 1 ∧ ¬7 ≤ digitCount coefficient + exponent - 1 then Positional chars
        else Scientific chars := by
  have range : (Layout.console.lowest ≤ digitCount coefficient + exponent - 1 ∧
      digitCount coefficient + exponent - 1 ≤ Layout.console.highest) ↔
        (-3 ≤ digitCount coefficient + exponent - 1 ∧ ¬7 ≤ digitCount coefficient + exponent - 1) := by
    rw [show Layout.console.lowest = -3 from rfl, show Layout.console.highest = 6 from rfl]
    omega
  simp only [Layout.magnitude, Decimal.point_scaled, range]
  split
  case isTrue =>
    obtain ⟨whole, fraction, first, second, written, -⟩ := positional_eq coefficient exponent
    have one := pointed first second (List.not_mem_nil : '.' ∉ [])
    rw [List.append_nil] at one
    rw [written]
    exact ⟨one, whole, fraction, first, second, rfl⟩
  case isFalse =>
    obtain ⟨lead, digit, nonzero, ⟨never, -⟩ | ⟨fraction, second, final, written, -⟩⟩ :=
      scientific_eq Layout.console exponent last
    · cases never
    · rw [written, console_exponentText]
      refine ⟨pointed ⟨by simp, by simpa using digit⟩ second ?_, lead, fraction, _, digit, nonzero, second, final, rfl⟩
      have places := (digits_toDigits (digitCount coefficient + exponent - 1).natAbs).not_mem_point
      split <;> simpa using places

end Shape

section Finite

variable {number : Float} {negative : Bool} {mantissa shift coefficient : Nat} {exponent : Int}

theorem magnitude_pos (positive : 0 < mantissa) (shift : Nat) : 0 < magnitude mantissa shift :=
  div_pos (Nat.cast_pos.mpr (Nat.mul_pos positive (Nat.two_pow_pos shift))) oneInUnits_pos

theorem signed_lt_zero (positive : 0 < mantissa) (negative : Bool) (shift : Nat) :
    decide (signed negative (magnitude mantissa shift) < 0) = negative := by
  have above := magnitude_pos positive shift
  cases negative with
  | false => simpa [signed] using above.le
  | true => simpa [signed] using above

theorem abs_signed (positive : 0 < mantissa) :
    abs (signed negative (magnitude mantissa shift)) = magnitude mantissa shift := by
  have above := magnitude_pos positive shift
  cases negative with
  | false => exact abs_of_pos above
  | true => exact (abs_neg _).trans (abs_of_pos above)

theorem exactly_codeOf (normal : Normal mantissa shift) :
    exactly (codeOf mantissa shift) = magnitude mantissa shift := by
  rw [exactly, level_of_normal normal]
  rfl

theorem Best.isShortest (best : Best (codeOf mantissa shift) coefficient exponent) (positive : 0 < mantissa)
    (finite : Parts.ofFloat number = .finite negative mantissa shift) :
    IsShortest number (signed negative (magnitude mantissa shift)) coefficient exponent := by
  obtain ⟨-, normal, below, rfl⟩ := exists_code finite
  have reads : ∀ other place, ofDecimal negative other place = ofCode negative (codeOf mantissa shift) ↔
      Fits (codeOf mantissa shift) other place := fun _ _ => ofDecimal_eq_iff below
  have sign := signed_lt_zero positive negative shift
  have gap : ∀ (other : Nat) (place : Int),
      |other * (10 : ℚ) ^ place - abs (signed negative (magnitude mantissa shift))| =
        distance (codeOf mantissa shift) other place := by
    intro other place
    rw [abs_signed positive, distance, exactly_codeOf normal]
  constructor
  case rounds =>
    rw [sign, reads]
    exact best.fits
  case short => exact best.short
  case least =>
    intro other place same
    rw [sign, reads] at same
    exact best.least other place same
  case closest =>
    intro other place same length
    rw [sign, reads] at same
    have closer := best.closest other place same length
    rwa [← gap, ← gap] at closer

theorem Best.range_iff (best : Best (codeOf mantissa shift) coefficient exponent) (normal : Normal mantissa shift)
    (nonzero : 0 < coefficient) :
    (-3 ≤ digitCount coefficient + exponent - 1 ∧ ¬7 ≤ digitCount coefficient + exponent - 1) ↔
      (1 / 1000 ≤ magnitude mantissa shift ∧ magnitude mantissa shift < 10 ^ 7) := by
  have thousandth : (10 : ℚ) ^ (-3 : Int) = 1 / 1000 := by norm_num
  have million : (10 : ℚ) ^ (7 : Int) = 10 ^ 7 := by norm_num
  rw [le_point_iff nonzero, le_point_iff nonzero, best.reaches_iff thousandth_upwards, best.reaches_iff million_upwards,
    exactly_codeOf normal, thousandth, million, not_le]

theorem layout_finite (layout : Layout) (positive : 0 < mantissa)
    (written : shortest mantissa shift = .scaled coefficient exponent) :
    layout.finite negative mantissa shift =
      (if negative then ['-'] else []) ++ layout.magnitude (.scaled coefficient exponent) := by
  rw [Layout.finite, if_neg positive.ne', written]

theorem denoted?_of_readsAs {text : String} {value : ℚ} (reads : ReadsAs negative value text.toList) :
    denoted? text = some (signed negative value) := by
  obtain ⟨coefficient, exponent, read, rfl⟩ := reads
  rw [denoted?, read, Option.map_some]

theorem toList_consoleText (finite : Parts.ofFloat number = .finite negative mantissa shift) :
    (consoleText number).toList = Layout.console.finite negative mantissa shift := by
  rw [consoleText, finite, String.toList_ofList]

theorem toList_documentText (finite : Parts.ofFloat number = .finite negative mantissa shift) :
    (documentText number).toList = Layout.document.finite negative mantissa shift := by
  rw [documentText, finite, String.toList_ofList]

/-- The console text of a finite double is read as a decimal, and that decimal as the double. -/
theorem reads_consoleText (finite : Parts.ofFloat number = .finite negative mantissa shift) :
    ∃ coefficient exponent, readDecimal? (consoleText number).toList = some (negative, coefficient, exponent) ∧
      ofDecimal negative coefficient exponent = number := by
  rw [toList_consoleText finite]
  obtain ⟨short, normal, below, rfl⟩ := exists_code finite
  suffices denotes : ∃ value, ReadsAs negative value (Layout.console.finite negative mantissa shift) ∧
      RoundsTo (value * oneInUnits) (codeOf mantissa shift) by
    obtain ⟨_, ⟨found, place, read, rfl⟩, rounds⟩ := denotes
    exact ⟨found, place, read, (ofDecimal_eq_iff below).mpr rounds⟩
  rcases Nat.eq_zero_or_pos mantissa with rfl | positive
  · obtain rfl : shift = 0 := normal.long.resolve_left (by decide)
    have rounds : RoundsTo (level 0) 0 := .level 0
    have nothing : (digitsValue (['0'] ++ ['0']) * 10 ^ (0 - (['0'].length : Int)) : ℚ) = 0 := by
      rw [show digitsValue (['0'] ++ ['0']) = 0 from rfl, Nat.cast_zero, zero_mul]
    refine ⟨0, readsAs_point digits_zero digits_zero.only stops_nil rfl nothing negative, ?_⟩
    rw [zero_mul]
    rwa [level_zero, Nat.cast_zero] at rounds
  · obtain ⟨coefficient, exponent, last, best, written⟩ := shortest_spec normal positive short
    rw [layout_finite _ positive written]
    exact ⟨_, readsAs_magnitude Layout.console (.inr rfl) exponent last negative, best.fits⟩

end Finite

theorem finite_of_value {number : Float} {value : ℚ} (known : finiteValue? number = some value) :
    ∃ negative mantissa shift, Parts.ofFloat number = .finite negative mantissa shift ∧
      value = signed negative (magnitude mantissa shift) := by
  unfold finiteValue? at known
  split at known
  case h_1 negative mantissa shift finite => exact ⟨negative, mantissa, shift, finite, (Option.some.inj known).symm⟩
  case h_2 => cases known

/-- The console text of a finite double other than zero denotes its shortest decimal, as its text in a document does,
with a sign in front if it is negative and one point between digits; from a thousandth up to below ten million it has
no exponent, and beyond it has one behind a digit and a fraction. Finite doubles with the same console text are the
same, and the two zeros have different ones. -/
theorem consoleText_keeps_value :
    (∀ number value, finiteValue? number = some value → value ≠ 0 →
      (∃ coefficient exponent, IsShortest number value coefficient exponent ∧
        denoted? (documentText number) = some (signed (decide (value < 0)) (coefficient * 10 ^ exponent)) ∧
        denoted? (consoleText number) = some (signed (decide (value < 0)) (coefficient * 10 ^ exponent))) ∧
      ((consoleText number).toList.head? = some '-' ↔ value < 0) ∧
      (consoleText number).toList.count '.' = 1 ∧
      ∃ chars, (consoleText number).toList = (if value < 0 then ['-'] else []) ++ chars ∧
        if 1 / 1000 ≤ abs value ∧ abs value < 10 ^ 7 then Positional chars else Scientific chars) ∧
    (∀ one two, (finiteValue? one).isSome → (finiteValue? two).isSome → consoleText one = consoleText two → one = two) ∧
    consoleText 0.0 ≠ consoleText (-0.0) := by
  refine ⟨?shown, ?injective, ?zeros⟩
  case shown =>
    intro number value known nonzero
    obtain ⟨negative, mantissa, shift, finite, rfl⟩ := finite_of_value known
    obtain ⟨short, normal, -⟩ := exists_code finite
    have positive : 0 < mantissa := Nat.pos_of_ne_zero fun zero => nonzero (by simp [zero, signed, magnitude])
    obtain ⟨coefficient, exponent, last, best, written⟩ := shortest_spec normal positive short
    have sign := signed_lt_zero positive negative shift
    have below : signed negative (magnitude mantissa shift) < 0 ↔ negative = true :=
      (decide_eq_true_iff).symm.trans (by rw [sign])
    have console := toList_consoleText finite
    have document := toList_documentText finite
    rw [layout_finite _ positive written] at console document
    have denoted := denoted?_of_readsAs (console ▸ readsAs_magnitude _ (.inr rfl) exponent last negative)
    have denoted' := denoted?_of_readsAs (document ▸ readsAs_magnitude _ (.inl rfl) exponent last negative)
    obtain ⟨pointed, shape⟩ := magnitude_shape exponent last
    rw [if_congr (best.range_iff normal (pos_of_last last)) rfl rfl] at shape
    generalize Layout.console.magnitude _ = chars at console pointed shape
    refine ⟨⟨coefficient, exponent, best.isShortest positive finite, by rw [sign, denoted'], by rw [sign, denoted]⟩,
      ?_, ?_, chars, ?_, ?_⟩
    · rw [console, below]
      cases negative with
      | false => simpa using pointed.unsigned
      | true => simp
    · rw [console, List.count_append, pointed.single]
      cases negative <;> rfl
    · rw [console, if_congr below rfl rfl]
    · rwa [abs_signed positive]
  case injective =>
    intro one two first second same
    obtain ⟨_, known⟩ := Option.isSome_iff_exists.mp first
    obtain ⟨_, known'⟩ := Option.isSome_iff_exists.mp second
    obtain ⟨_, _, _, finite, -⟩ := finite_of_value known
    obtain ⟨_, _, _, finite', -⟩ := finite_of_value known'
    obtain ⟨_, _, read, made⟩ := reads_consoleText finite
    obtain ⟨_, _, read', made'⟩ := reads_consoleText finite'
    rw [same, read'] at read
    cases read
    exact made.symm.trans made'
  case zeros => decide +kernel

example : consoleText 0.001 = "0.001" ∧ consoleText 0.0009999999999999998 = "9.999999999999998E-4" := by decide +kernel

/-- A thousandth is rounded upwards, and written with its point in place. -/
theorem thousandth_kept :
    ∃ value, finiteValue? 0.001 = some value ∧ value ≠ 0 ∧
      denoted? (consoleText 0.001) = denoted? (documentText 0.001) ∧
      ∃ chars, (consoleText 0.001).toList = (if value < 0 then ['-'] else []) ++ chars ∧
        if 1 / 1000 ≤ abs value ∧ abs value < 10 ^ 7 then Positional chars else Scientific chars := by
  have parts : Parts.ofFloat 0.001 = .finite false 4611686018427388 1012 := by decide +kernel
  have known : finiteValue? 0.001 = some (magnitude 4611686018427388 1012) := by
    rw [finiteValue?, parts]
    rfl
  have nonzero : magnitude 4611686018427388 1012 ≠ 0 := (magnitude_pos (by decide) _).ne'
  obtain ⟨⟨_, _, -, document, console⟩, -, -, shape⟩ := consoleText_keeps_value.1 _ _ known nonzero
  exact ⟨_, known, nonzero, console.trans document.symm, shape⟩

end Stepwise.Number
