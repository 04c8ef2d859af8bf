import Stepwise.Proofs.Doubles.Rounding

/-!
# The shortest decimal of a double

A finite grid of decimals either has a neighbour of the double among those that round to it, or has no decimal at all
that does. So the search through ever finer grids ends at the least number of digits with which the double can be
written, and takes a decimal that lies closest to it. Seventeen digits always suffice, because a grid of so many is
finer than the distance between doubles.
-/

namespace Stepwise.Number

set_option autoImplicit false

def Interval.between (code : Nat) : Interval :=
  { low := 2 * boundary code, value := 4 * level code, high := 2 * boundary (code + 1), closed := decide (Even code) }

section Interval

variable {mantissa shift code coefficient : Nat} {scale : Nat × Nat}

theorem ofFinite_eq (normal : Normal mantissa shift) (positive : 0 < mantissa) (short : mantissa < 2 ^ 53) :
    Interval.ofFinite mantissa shift = Interval.between (codeOf mantissa shift) := by
  have above := boundary_succ_eq (codeOf mantissa shift)
  have below := boundary_add (codeOf mantissa shift) (by unfold codeOf; omega)
  rw [level_of_normal normal, spacing_codeOf normal short] at above
  rw [level_of_normal normal, spacing_before normal positive] at below
  have gap : (if mantissa = 2 ^ 52 ∧ 0 < shift then 2 ^ shift else 2 * 2 ^ shift) =
      2 * 2 ^ (if mantissa = 2 ^ 52 ∧ 0 < shift then shift - 1 else shift) := by
    split
    case isTrue power =>
      obtain ⟨less, rfl⟩ : ∃ less, shift = less + 1 := ⟨shift - 1, by omega⟩
      rw [Nat.add_sub_cancel, Nat.pow_succ']
    case isFalse => rfl
  have parity : decide (Even (codeOf mantissa shift)) = decide (mantissa % 2 = 0) := by
    rw [decide_eq_decide, even_codeOf, Nat.even_iff]
  rw [Interval.between, parity, level_of_normal normal]
  change Interval.mk (4 * mantissa * 2 ^ shift - if mantissa = 2 ^ 52 ∧ 0 < shift then 2 ^ shift else 2 * 2 ^ shift)
    (4 * mantissa * 2 ^ shift) (4 * mantissa * 2 ^ shift + 2 * 2 ^ shift) _ = _
  rw [gap, Nat.mul_assoc]
  congr 1 <;> omega

theorem quartersPerOne_cast : ((quartersPerOne : Nat) : ℚ) = 4 * oneInUnits := by
  rw [quartersPerOne, Nat.cast_mul, Nat.cast_ofNat, oneInUnits]

/-- A decimal in quarters of a unit, which has the denominator of its scale. -/
theorem quarters_eq (positive : 0 < scale.2) (coefficient : Nat) :
    ((coefficient * scale.1 * quartersPerOne : Nat) : ℚ) =
      2 * (2 * (coefficient * (scale.1 / scale.2) * oneInUnits)) * scale.2 := by
  have positive' : (0 : ℚ) < scale.2 := Nat.cast_pos.mpr positive
  rw [Nat.cast_mul, Nat.cast_mul, quartersPerOne_cast]
  field_simp
  ring

theorem quarters_le_iff (positive : 0 < scale.2) (coefficient edge : Nat) :
    2 * edge * scale.2 ≤ coefficient * scale.1 * quartersPerOne ↔
      (edge : ℚ) ≤ 2 * (coefficient * (scale.1 / scale.2) * oneInUnits) := by
  have positive' : (0 : ℚ) < scale.2 := Nat.cast_pos.mpr positive
  rw [← @Nat.cast_le ℚ, quarters_eq positive, Nat.cast_mul, Nat.cast_mul, Nat.cast_ofNat,
    mul_le_mul_iff_of_pos_right positive', mul_le_mul_iff_of_pos_left two_pos]

theorem le_quarters_iff (positive : 0 < scale.2) (coefficient edge : Nat) :
    coefficient * scale.1 * quartersPerOne ≤ 2 * edge * scale.2 ↔
      2 * (coefficient * (scale.1 / scale.2) * oneInUnits) ≤ (edge : ℚ) := by
  have positive' : (0 : ℚ) < scale.2 := Nat.cast_pos.mpr positive
  rw [← @Nat.cast_le ℚ, quarters_eq positive, Nat.cast_mul, Nat.cast_mul, Nat.cast_ofNat,
    mul_le_mul_iff_of_pos_right positive', mul_le_mul_iff_of_pos_left two_pos]

theorem holds_between (positive : 0 < scale.2) :
    (Interval.between code).holds scale coefficient = true ↔
      RoundsTo (coefficient * (scale.1 / scale.2) * oneInUnits) code := by
  have low := quarters_le_iff positive coefficient (boundary code)
  have high := le_quarters_iff positive coefficient (boundary (code + 1))
  have notLow := le_quarters_iff positive coefficient (boundary code)
  have notHigh := quarters_le_iff positive coefficient (boundary (code + 1))
  unfold Interval.holds Interval.between
  by_cases even : Even code
  · simp only [even, decide_true, if_true, Bool.and_eq_true, decide_eq_true_eq, low, high]
    exact ⟨fun ⟨above, below⟩ => ⟨above, below, fun _ => even⟩, fun rounds => ⟨rounds.low, rounds.high⟩⟩
  · simp only [even, decide_false, Bool.false_eq_true, if_false, Bool.and_eq_true, decide_eq_true_eq, ← Nat.not_le,
      notLow, notHigh, not_le]
    constructor
    · exact fun ⟨above, below⟩ => .of_lt above below
    · intro rounds
      exact ⟨lt_of_le_of_ne rounds.low fun tie => even (rounds.even (.inl tie.symm)),
        lt_of_le_of_ne rounds.high fun tie => even (rounds.even (.inr tie))⟩

end Interval

theorem closer_below {first second value : ℚ} (order : first ≤ second) (below : second ≤ value) :
    |second - value| ≤ |first - value| := by
  rw [abs_of_nonpos (by linarith), abs_of_nonpos (by linarith)]
  linarith

theorem closer_above {first second value : ℚ} (above : value ≤ first) (order : first ≤ second) :
    |first - value| ≤ |second - value| := by
  rw [abs_of_nonneg (by linarith), abs_of_nonneg (by linarith)]
  linarith

section Grid

variable {code coefficient : Nat} {exponent : Int}

def exactly (code : Nat) : ℚ := level code / oneInUnits

/-- The decimal number with this coefficient and exponent rounds to the code. -/
def Fits (code coefficient : Nat) (exponent : Int) : Prop :=
  RoundsTo (coefficient * 10 ^ exponent * oneInUnits) code

def distance (code coefficient : Nat) (exponent : Int) : ℚ :=
  |coefficient * 10 ^ exponent - exactly code|

theorem exactly_mul (code : Nat) : exactly code * oneInUnits = level code :=
  div_mul_cancel₀ _ oneInUnits_pos.ne'

/-- What lies between a decimal that fits and the magnitude fits as well, and is closer. -/
theorem Fits.rising (fits : Fits code coefficient exponent) (other : Nat) (place : Int)
    (order : coefficient * (10 : ℚ) ^ exponent ≤ other * 10 ^ place) (below : other * (10 : ℚ) ^ place ≤ exactly code) :
    Fits code other place ∧ distance code other place ≤ distance code coefficient exponent := by
  have units := oneInUnits_pos
  refine ⟨RoundsTo.convex fits (.level code) (mul_le_mul_of_nonneg_right order units.le) ?_, closer_below order below⟩
  rw [← exactly_mul]
  exact mul_le_mul_of_nonneg_right below units.le

theorem Fits.falling (fits : Fits code coefficient exponent) (other : Nat) (place : Int)
    (above : exactly code ≤ other * (10 : ℚ) ^ place)
    (order : other * (10 : ℚ) ^ place ≤ coefficient * 10 ^ exponent) :
    Fits code other place ∧ distance code other place ≤ distance code coefficient exponent := by
  have units := oneInUnits_pos
  refine ⟨RoundsTo.convex (.level code) fits ?_ (mul_le_mul_of_nonneg_right order units.le), closer_above above order⟩
  rw [← exactly_mul]
  exact mul_le_mul_of_nonneg_right above units.le

theorem powerOfTen_pos (exponent : Int) : 0 < (powerOfTen exponent).1 ∧ 0 < (powerOfTen exponent).2 := by
  unfold powerOfTen
  split
  · exact ⟨Nat.pow_pos (by decide), Nat.one_pos⟩
  · exact ⟨Nat.one_pos, Nat.pow_pos (by decide)⟩

theorem powerOfTen_value (exponent : Int) :
    ((powerOfTen exponent).1 / (powerOfTen exponent).2 : ℚ) = 10 ^ exponent := by
  unfold powerOfTen
  split
  case isTrue whole =>
    obtain ⟨places, rfl⟩ := Int.eq_ofNat_of_zero_le whole
    simp
  case isFalse small =>
    obtain ⟨places, rfl⟩ : ∃ places : Nat, exponent = -places := ⟨(-exponent).toNat, by omega⟩
    simp

theorem holds_grid (code coefficient : Nat) (exponent : Int) :
    (Interval.between code).holds (powerOfTen exponent) coefficient = true ↔ Fits code coefficient exponent := by
  rw [holds_between (powerOfTen_pos exponent).2, powerOfTen_value, Fits]

theorem scaled_ratio (code : Nat) (exponent : Int) :
    ((4 * level code * (powerOfTen exponent).2 : Nat) / ((powerOfTen exponent).1 * quartersPerOne : Nat) : ℚ) =
      exactly code / 10 ^ exponent := by
  obtain ⟨first, second⟩ := powerOfTen_pos exponent
  have first' : (0 : ℚ) < (powerOfTen exponent).1 := Nat.cast_pos.mpr first
  have second' : (0 : ℚ) < (powerOfTen exponent).2 := Nat.cast_pos.mpr second
  have units := oneInUnits_pos
  rw [← powerOfTen_value, exactly]
  push_cast
  rw [quartersPerOne_cast]
  field_simp

/-- The greatest coefficient with which a decimal of this exponent is not beyond the magnitude. -/
def lowerNeighbour (code : Nat) (exponent : Int) : Nat :=
  4 * level code * (powerOfTen exponent).2 / ((powerOfTen exponent).1 * quartersPerOne)

theorem lowerNeighbour_bounds (code : Nat) (exponent : Int) :
    lowerNeighbour code exponent * (10 : ℚ) ^ exponent ≤ exactly code ∧
      exactly code < (lowerNeighbour code exponent + 1 : Nat) * (10 : ℚ) ^ exponent := by
  have ratio := scaled_ratio code exponent
  have step : 0 < (powerOfTen exponent).1 * quartersPerOne :=
    Nat.mul_pos (powerOfTen_pos exponent).1 (Nat.mul_pos (by decide) unitsPerOne_pos)
  have step' : (0 : ℚ) < ((powerOfTen exponent).1 * quartersPerOne : Nat) := Nat.cast_pos.mpr step
  have ten : (0 : ℚ) < 10 ^ exponent := by positivity
  rw [lowerNeighbour, ← le_div_iff₀ ten, ← div_lt_iff₀ ten, ← ratio, le_div_iff₀ step', div_lt_iff₀ step']
  exact ⟨by exact_mod_cast Nat.div_mul_le_self _ _, by exact_mod_cast Nat.lt_mul_of_div_lt (Nat.lt_succ_self _) step⟩

/-- A decimal that fits lies beyond a neighbour of the magnitude, which fits as well. -/
theorem Fits.neighbour (fits : Fits code coefficient exponent) :
    Fits code (lowerNeighbour code exponent) exponent ∧
        distance code (lowerNeighbour code exponent) exponent ≤ distance code coefficient exponent ∨
      Fits code (lowerNeighbour code exponent + 1) exponent ∧
        distance code (lowerNeighbour code exponent + 1) exponent ≤ distance code coefficient exponent := by
  have ten : (0 : ℚ) < 10 ^ exponent := by positivity
  obtain ⟨below, above⟩ := lowerNeighbour_bounds code exponent
  rcases le_or_gt coefficient (lowerNeighbour code exponent) with before | after
  · exact .inl (fits.rising _ _ (mul_le_mul_of_nonneg_right (Nat.cast_le.mpr before) ten.le) below)
  · exact .inr (fits.falling _ _ above.le (mul_le_mul_of_nonneg_right (Nat.cast_le.mpr after) ten.le))

theorem rounded_neighbour (code : Nat) (exponent : Int) :
    let rounded := roundHalfEven (4 * level code * (powerOfTen exponent).2) ((powerOfTen exponent).1 * quartersPerOne)
    (rounded = lowerNeighbour code exponent ∨ rounded = lowerNeighbour code exponent + 1) ∧
      distance code rounded exponent ≤ distance code (lowerNeighbour code exponent) exponent ∧
      distance code rounded exponent ≤ distance code (lowerNeighbour code exponent + 1) exponent := by
  have step : 0 < (powerOfTen exponent).1 * quartersPerOne :=
    Nat.mul_pos (powerOfTen_pos exponent).1 (Nat.mul_pos (by decide) unitsPerOne_pos)
  have rounds := roundHalfEven_roundsTo (4 * level code * (powerOfTen exponent).2) step
  have either : roundHalfEven (4 * level code * (powerOfTen exponent).2) ((powerOfTen exponent).1 * quartersPerOne) =
      lowerNeighbour code exponent ∨
        roundHalfEven (4 * level code * (powerOfTen exponent).2) ((powerOfTen exponent).1 * quartersPerOne) =
          lowerNeighbour code exponent + 1 := by
    unfold roundHalfEven lowerNeighbour
    simp only
    split
    · exact .inl rfl
    · split
      · exact .inr rfl
      · omega
  rw [scaled_ratio] at rounds
  obtain ⟨below, above⟩ := lowerNeighbour_bounds code exponent
  have ten : (0 : ℚ) < 10 ^ exponent := by positivity
  simp only
  refine ⟨either, ?_⟩
  generalize roundHalfEven _ _ = rounded at rounds either ⊢
  generalize lowerNeighbour code exponent = lower at below above either ⊢
  have low := rounds.low
  have high := rounds.high
  rw [← mul_div_assoc, le_div_iff₀ ten] at low
  rw [← mul_div_assoc, div_le_iff₀ ten] at high
  unfold distance
  push_cast at above ⊢
  rw [abs_of_nonpos (by linarith : lower * (10 : ℚ) ^ exponent - exactly code ≤ 0),
    abs_of_nonneg (by linarith : 0 ≤ (lower + 1) * (10 : ℚ) ^ exponent - exactly code)]
  rcases either with rfl | rfl
  · rw [abs_of_nonpos (by linarith)]
    exact ⟨le_rfl, by linarith⟩
  · push_cast at low high ⊢
    rw [abs_of_nonneg (by linarith)]
    exact ⟨by linarith, le_rfl⟩

/-- The decimal fits, is a neighbour of the magnitude and the closest of all that fit on its grid. -/
structure Chosen (code coefficient : Nat) (exponent : Int) : Prop where
  fits : Fits code coefficient exponent
  near : coefficient = lowerNeighbour code exponent ∨ coefficient = lowerNeighbour code exponent + 1
  closest : ∀ other, Fits code other exponent → distance code coefficient exponent ≤ distance code other exponent

/-- The grid yields the decimal to choose, or none of its decimals fits. -/
theorem onGrid?_spec (code : Nat) (exponent : Int) :
    (∃ coefficient, (Interval.between code).onGrid? (powerOfTen exponent) = some coefficient ∧
      Chosen code coefficient exponent) ∨
    (Interval.between code).onGrid? (powerOfTen exponent) = none ∧ ∀ other, ¬Fits code other exponent := by
  have fitsLower := holds_grid code (lowerNeighbour code exponent) exponent
  have fitsUpper := holds_grid code (lowerNeighbour code exponent + 1) exponent
  unfold Interval.onGrid?
  dsimp only
  split
  case h_1 lower upper =>
    obtain ⟨either, nearer, nearer'⟩ := rounded_neighbour code exponent
    refine .inl ⟨_, rfl, ?_, either, fun other fits => ?_⟩
    · exact either.elim (fun same => same ▸ fitsLower.mp lower) fun same => same ▸ fitsUpper.mp upper
    · exact fits.neighbour.elim (fun found => nearer.trans found.2) fun found => nearer'.trans found.2
  case h_2 lower upper =>
    refine .inl ⟨_, rfl, fitsLower.mp lower, .inl rfl, fun other fits => ?_⟩
    exact fits.neighbour.elim And.right fun found => absurd (fitsUpper.mpr found.1) (Bool.eq_false_iff.mp upper)
  case h_3 lower upper =>
    refine .inl ⟨_, rfl, fitsUpper.mp upper, .inr rfl, fun other fits => ?_⟩
    exact fits.neighbour.elim (fun found => absurd (fitsLower.mpr found.1) (Bool.eq_false_iff.mp lower)) And.right
  case h_4 lower upper =>
    refine .inr ⟨rfl, fun other fits => ?_⟩
    exact fits.neighbour.elim (fun found => Bool.eq_false_iff.mp lower (fitsLower.mpr found.1))
      fun found => Bool.eq_false_iff.mp upper (fitsUpper.mpr found.1)

end Grid

section Point

variable {numerator denominator : Nat}

theorem pow_le_ratio (positive : 0 < denominator) {places : Nat} (le : 10 ^ places * denominator ≤ numerator) :
    (10 : ℚ) ^ (places : Int) ≤ numerator / denominator := by
  rw [zpow_natCast, le_div_iff₀ (Nat.cast_pos.mpr positive)]
  exact_mod_cast le

theorem ratio_lt_pow (positive : 0 < denominator) {places : Nat} (lt : numerator < 10 ^ places * denominator) :
    (numerator / denominator : ℚ) < 10 ^ (places : Int) := by
  rw [zpow_natCast, div_lt_iff₀ (Nat.cast_pos.mpr positive)]
  exact_mod_cast lt

theorem pow_neg_le_ratio (positive : 0 < denominator) {places : Nat} (le : denominator ≤ 10 ^ places * numerator) :
    (10 : ℚ) ^ (-places : Int) ≤ numerator / denominator := by
  rw [zpow_neg, zpow_natCast, le_div_iff₀ (Nat.cast_pos.mpr positive), inv_mul_le_iff₀ (by positivity)]
  exact_mod_cast le

theorem ratio_lt_pow_neg (positive : 0 < denominator) {places : Nat} (lt : 10 ^ places * numerator < denominator) :
    (numerator / denominator : ℚ) < 10 ^ (-places : Int) := by
  rw [zpow_neg, zpow_natCast, div_lt_iff₀ (Nat.cast_pos.mpr positive), lt_inv_mul_iff₀ (by positivity)]
  exact_mod_cast lt

theorem decimalPoint_bounds (positive : 0 < numerator) (positive' : 0 < denominator) :
    (10 : ℚ) ^ (decimalPoint numerator denominator - 1) ≤ numerator / denominator ∧
      (numerator / denominator : ℚ) < 10 ^ decimalPoint numerator denominator := by
  unfold decimalPoint
  split
  case isTrue large =>
    have low := pow_digitCount_le (Nat.div_pos large positive')
    have high := lt_pow_digitCount (numerator / denominator)
    have some := digitCount_pos (numerator / denominator)
    rw [Nat.le_div_iff_mul_le positive'] at low
    rw [Nat.div_lt_iff_lt_mul positive'] at high
    generalize digitCount (numerator / denominator) = length at *
    have before : (length : Int) - 1 = (length - 1 : Nat) := by omega
    rw [before]
    exact ⟨pow_le_ratio positive' low, ratio_lt_pow positive' high⟩
  case isFalse small =>
    have low := pow_digitCount_le (Nat.div_pos (Nat.le_of_lt (Nat.not_le.mp small)) positive)
    have high := lt_pow_digitCount (denominator / numerator)
    have some := digitCount_pos (denominator / numerator)
    rw [Nat.le_div_iff_mul_le positive] at low
    rw [Nat.div_lt_iff_lt_mul positive] at high
    simp only
    generalize digitCount (denominator / numerator) = length at *
    obtain ⟨less, rfl⟩ : ∃ less, length = less + 1 := ⟨length - 1, by omega⟩
    rw [Nat.add_sub_cancel] at low ⊢
    split
    case isTrue below =>
      have here : (1 : Int) - (less + 1 : Nat) = -(less : Nat) := by omega
      have before : -(less : Int) - 1 = -(less + 1 : Nat) := by omega
      rw [here, before]
      exact ⟨pow_neg_le_ratio positive' high.le, ratio_lt_pow_neg positive' (Nat.mul_comm _ _ ▸ below)⟩
    case isFalse exact =>
      rw [Nat.pow_eq, Nat.mul_comm] at exact
      -- the ratio is that power of ten, and it is below one
      obtain ⟨places, rfl⟩ : ∃ places, less = places + 1 := by
        refine ⟨less - 1, (Nat.sub_add_cancel (Nat.pos_of_ne_zero ?_)).symm⟩
        rintro rfl
        omega
      have here : (2 : Int) - (places + 1 + 1 : Nat) - 1 = -(places + 1 : Nat) := by omega
      have after : (2 : Int) - (places + 1 + 1 : Nat) = -(places : Nat) := by omega
      rw [here, after]
      refine ⟨pow_neg_le_ratio positive' (Nat.not_lt.mp exact), ratio_lt_pow_neg positive' ?_⟩
      refine lt_of_lt_of_le ?_ low
      exact Nat.mul_lt_mul_of_pos_right (Nat.pow_lt_pow_right (by decide) (Nat.lt_succ_self _)) positive

end Point

section Search

variable {code coefficient : Nat} {exponent point : Int}

/-- A grid that is as fine as a decimal that fits has a decimal that fits and is as close. -/
theorem Fits.onGrid (fits : Fits code coefficient exponent) (nonzero : 0 < coefficient)
    (low : (10 : ℚ) ^ (point - 1) ≤ exactly code) (high : exactly code < 10 ^ point) (index : Nat)
    (short : digitCount coefficient ≤ index + 1) :
    ∃ other, Fits code other (point - (index + 1)) ∧
      distance code other (point - (index + 1)) ≤ distance code coefficient exponent := by
  obtain ⟨above, below⟩ := decimal_bounds nonzero exponent
  have onGrid : ∀ places : Nat, ∀ power : Int, power = places + (point - (index + 1)) → ∀ factor : Nat,
      ((factor * 10 ^ places : Nat) : ℚ) * 10 ^ (point - (index + 1)) = factor * 10 ^ power := by
    rintro places power rfl factor
    rw [zpow_add₀ (by norm_num), zpow_natCast]
    push_cast
    ring
  by_cases beyond : (10 : ℚ) ^ point ≤ coefficient * 10 ^ exponent
  · refine ⟨1 * 10 ^ (index + 1), fits.falling _ _ ?_ ?_⟩ <;>
      rw [onGrid (index + 1) point (by push_cast; ring) 1, Nat.cast_one, one_mul]
    · exact high.le
    · exact beyond
  by_cases behind : coefficient * (10 : ℚ) ^ exponent < 10 ^ (point - 1)
  · refine ⟨1 * 10 ^ index, fits.rising _ _ ?_ ?_⟩ <;>
      rw [onGrid index (point - 1) (by ring) 1, Nat.cast_one, one_mul]
    · exact behind.le
    · exact low
  · have longer : digitCount coefficient + exponent - 1 < point :=
      (zpow_lt_zpow_iff_right₀ (by norm_num)).mp (above.trans_lt (not_le.mp beyond))
    have shorter : point - 1 < digitCount coefficient + exponent :=
      (zpow_lt_zpow_iff_right₀ (by norm_num)).mp ((not_lt.mp behind).trans_lt below)
    have same := onGrid (index + 1 - digitCount coefficient) exponent (by omega) coefficient
    refine ⟨coefficient * 10 ^ (index + 1 - digitCount coefficient), ?_, ?_⟩
    · rw [Fits, same]
      exact fits
    · rw [distance, same, distance]

/-- Of two places around a level, so close to each other as those of a grid of seventeen digits, one rounds to it. -/
theorem roundsTo_below_or_above {mantissa shift : Nat} (normal : Normal mantissa shift) (positive : 0 < mantissa)
    (short : mantissa < 2 ^ 53) {below above : ℚ} (low : below ≤ level (codeOf mantissa shift))
    (high : level (codeOf mantissa shift) < above)
    (fine : 10 ^ 16 * (above - below) ≤ level (codeOf mantissa shift)) :
    RoundsTo below (codeOf mantissa shift) ∨ RoundsTo above (codeOf mantissa shift) := by
  have scale : (0 : ℚ) < 2 ^ shift := by positivity
  have small : (mantissa : ℚ) + 1 ≤ 2 ^ 53 := by exact_mod_cast short
  have next : (boundary (codeOf mantissa shift + 1) : ℚ) = 2 * level (codeOf mantissa shift) + 2 ^ shift := by
    have exact := boundary_succ_eq (codeOf mantissa shift)
    rw [spacing_codeOf normal short] at exact
    exact_mod_cast exact
  have before : (boundary (codeOf mantissa shift) : ℚ) < 2 * level (codeOf mantissa shift) := by
    have gap := boundary_add (codeOf mantissa shift) (by unfold codeOf; omega)
    exact_mod_cast (gap ▸ Nat.lt_add_of_pos_right (Nat.two_pow_pos _) :
      boundary (codeOf mantissa shift) < 2 * level (codeOf mantissa shift))
  have previous := normal.boundary_cases
  have value : (level (codeOf mantissa shift) : ℚ) = mantissa * 2 ^ shift := by exact_mod_cast level_of_normal normal
  by_cases reached : 2 * above < boundary (codeOf mantissa shift + 1)
  · exact .inr (.of_lt (by linarith) reached)
  · left
    refine .of_lt ?_ (by linarith)
    rcases previous with gap | ⟨-, power, -⟩ | ⟨zero, -⟩
    · have gap' : (boundary (codeOf mantissa shift) : ℚ) + 2 ^ shift = 2 * level (codeOf mantissa shift) := by
        rw [value, ← mul_assoc]
        exact_mod_cast gap
      nlinarith
    · have least : (mantissa : ℚ) = 2 ^ 52 := by exact_mod_cast power
      rw [least] at value
      linarith
    · exact absurd zero positive.ne'

/-- A grid of seventeen digits is so fine that one of the neighbours fits. -/
theorem fits_seventeen {mantissa shift : Nat} (normal : Normal mantissa shift) (positive : 0 < mantissa)
    (short : mantissa < 2 ^ 53) (low : (10 : ℚ) ^ (point - 1) ≤ exactly (codeOf mantissa shift)) :
    ∃ other, Fits (codeOf mantissa shift) other (point - (16 + 1 : Nat)) := by
  have units := oneInUnits_pos
  have value := exactly_mul (codeOf mantissa shift)
  obtain ⟨below, above⟩ := lowerNeighbour_bounds (codeOf mantissa shift) (point - (16 + 1 : Nat))
  have step : (10 : ℚ) ^ 16 * 10 ^ (point - (16 + 1 : Nat)) = 10 ^ (point - 1) := by
    have places : ((16 : Nat) : Int) + (point - (16 + 1 : Nat)) = point - 1 := by omega
    rw [← zpow_natCast, ← zpow_add₀ (by norm_num), places]
  rw [← step] at low
  unfold Fits
  generalize oneInUnits = one at units value ⊢
  generalize (10 : ℚ) ^ (point - (16 + 1 : Nat)) = gap at below above low ⊢
  generalize exactly (codeOf mantissa shift) = exact at below above low value
  generalize lowerNeighbour (codeOf mantissa shift) (point - (16 + 1 : Nat)) = lower at below above
  have fine : (10 : ℚ) ^ 16 * ((lower + 1 : Nat) * gap * one - lower * gap * one) ≤ level (codeOf mantissa shift) :=
    calc (10 : ℚ) ^ 16 * ((lower + 1 : Nat) * gap * one - lower * gap * one)
        = 10 ^ 16 * gap * one := by push_cast; ring
      _ ≤ exact * one := mul_le_mul_of_nonneg_right low units.le
      _ = level (codeOf mantissa shift) := value
  have rounds := roundsTo_below_or_above normal positive short (value ▸ mul_le_mul_of_nonneg_right below units.le)
    (value ▸ mul_lt_mul_of_pos_right above units) fine
  exact rounds.elim (fun fits => ⟨lower, fits⟩) fun fits => ⟨lower + 1, fits⟩

end Search

def withoutZeros (digits : List Char) : List Char := (digits.reverse.dropWhile (· = '0')).reverse

theorem withoutZeros_zero (digits : List Char) : withoutZeros (digits ++ ['0']) = withoutZeros digits := by
  simp [withoutZeros]

theorem withoutZeros_toDigits {number : Nat} (nonzero : number % 10 ≠ 0) :
    withoutZeros (Nat.toDigits 10 number) = Nat.toDigits 10 number := by
  have last := getLast?_toDigits nonzero
  rw [withoutZeros, List.reverse_eq_iff]
  rw [← List.head?_reverse] at last
  generalize (Nat.toDigits 10 number).reverse = reversed at last ⊢
  cases reversed with
  | nil => rfl
  | cons char rest =>
      have other : char ≠ '0' := fun zero => last (congrArg some zero)
      rw [List.dropWhile_cons_of_neg (by simpa using other)]

theorem ofCoefficient_eq {number : Nat} (positive : 0 < number) (exponent : Int) :
    ∃ coefficient zeros : Nat, number = coefficient * 10 ^ zeros ∧ coefficient % 10 ≠ 0 ∧
      Decimal.ofCoefficient number exponent = .scaled coefficient (zeros + exponent) := by
  suffices stripped : ∃ coefficient zeros : Nat, number = coefficient * 10 ^ zeros ∧ coefficient % 10 ≠ 0 ∧
      withoutZeros (Nat.toDigits 10 number) = Nat.toDigits 10 coefficient ∧
      digitCount number = digitCount coefficient + zeros by
    obtain ⟨coefficient, zeros, same, last, digits, count⟩ := stripped
    refine ⟨coefficient, zeros, same, last, ?_⟩
    change Decimal.mk (withoutZeros (Nat.toDigits 10 number)) (digitCount number + exponent) = _
    rw [digits, count, Nat.cast_add, Int.add_assoc, Decimal.scaled]
  induction number using Nat.strong_induction_on with
  | _ number ih =>
    by_cases last : number % 10 = 0
    · have large : 10 ≤ number := by omega
      obtain ⟨coefficient, zeros, same, nonzero, digits, count⟩ := ih (number / 10) (by omega) (by omega)
      have split := Nat.toDigits_of_base_le (by decide) large
      rw [last] at split
      refine ⟨coefficient, zeros + 1, ?_, nonzero, ?_, ?_⟩
      · rw [Nat.pow_succ, ← Nat.mul_assoc, ← same]
        omega
      · rw [split]
        exact (withoutZeros_zero _).trans digits
      · rw [digitCount, split, List.length_append, ← digitCount, count]
        rfl
    · exact ⟨number, 0, (Nat.mul_one _).symm, last, withoutZeros_toDigits last, rfl⟩

theorem exists_first {Result : Type} (f : Nat → Option Result) (count : Nat) (found : ∃ index < count, f index ≠ none) :
    ∃ index < count, f index ≠ none ∧ (∀ before < index, f before = none) ∧
      (List.range count).findSome? f = f index := by
  induction count with
  | zero => exact absurd found.choose_spec.1 (Nat.not_lt_zero _)
  | succ count ih =>
      rw [List.range_succ, List.findSome?_append]
      by_cases earlier : ∃ index < count, f index ≠ none
      · obtain ⟨index, below, hit, first, same⟩ := ih earlier
        obtain ⟨result, there⟩ := Option.ne_none_iff_exists'.mp hit
        exact ⟨index, by omega, hit, first, by rw [same, there, Option.some_or]⟩
      · push Not at earlier
        obtain ⟨index, below, hit⟩ := found
        obtain rfl : index = count := by
          by_contra other
          exact hit (earlier index (by omega))
        refine ⟨index, below, hit, earlier, ?_⟩
        have nothing : (List.range index).findSome? f = none := by
          rw [List.findSome?_eq_none_iff]
          exact fun before member => earlier before (List.mem_range.mp member)
        rw [nothing, Option.none_or, List.findSome?_singleton]

/-- The decimal fits, in as few digits as any that does, and of those lies closest to the magnitude. -/
structure Best (code coefficient : Nat) (exponent : Int) : Prop where
  fits : Fits code coefficient exponent
  short : digitCount coefficient ≤ 17
  least : ∀ other place, Fits code other place → digitCount coefficient ≤ digitCount other
  closest : ∀ other place, Fits code other place → digitCount other = digitCount coefficient →
    distance code coefficient exponent ≤ distance code other place

theorem Fits.pos {code coefficient : Nat} {exponent : Int} (fits : Fits code coefficient exponent)
    (nonzero : 0 < code) : 0 < coefficient := by
  refine Nat.pos_of_ne_zero fun zero => ?_
  have first := RoundsTo.level 0
  rw [level_zero, Nat.cast_zero] at first
  rw [Fits, zero, Nat.cast_zero, zero_mul, zero_mul] at fits
  exact nonzero.ne (first.unique fits)

theorem lowerNeighbour_lt {code : Nat} {point : Int} (high : exactly code < 10 ^ point) (index : Nat) :
    lowerNeighbour code (point - (index + 1)) < 10 ^ (index + 1) := by
  have ten : (0 : ℚ) < 10 ^ (point - (index + 1)) := by positivity
  have bound := (lowerNeighbour_bounds code (point - (index + 1))).1.trans_lt high
  have split : (10 : ℚ) ^ point = 10 ^ (index + 1) * 10 ^ (point - (index + 1)) := by
    have places : point = (index + 1 : Nat) + (point - (index + 1)) := by push_cast; ring
    rw [← zpow_natCast, ← zpow_add₀ (by norm_num), ← places]
  rw [split] at bound
  exact_mod_cast lt_of_mul_lt_mul_right bound ten.le

/-- A decimal chosen from a grid when none fits on the coarser ones is the best, without zeros at its end. -/
theorem Chosen.best {code coefficient : Nat} {point : Int} {index zeros : Nat} (nonzero : 0 < code)
    (chosen : Chosen code (coefficient * 10 ^ zeros) (point - (index + 1))) (last : coefficient % 10 ≠ 0)
    (low : (10 : ℚ) ^ (point - 1) ≤ exactly code) (high : exactly code < 10 ^ point) (below : index < 17)
    (first : ∀ before < index, ∀ other, ¬Fits code other (point - (before + 1))) :
    Best code coefficient (zeros + (point - (index + 1))) := by
  have same : (coefficient : ℚ) * 10 ^ (zeros + (point - (index + 1))) =
      (coefficient * 10 ^ zeros : Nat) * 10 ^ (point - (index + 1)) := by
    rw [zpow_add₀ (by norm_num), zpow_natCast]
    push_cast
    ring
  have count : digitCount coefficient ≤ index + 1 := by
    have near : coefficient * 10 ^ zeros ≤ 10 ^ (index + 1) := by
      have lower := lowerNeighbour_lt high index
      rcases chosen.near with here | here <;> rw [here] <;> omega
    have atMost : coefficient ≤ 10 ^ (index + 1) :=
      (Nat.le_mul_of_pos_right coefficient (Nat.pow_pos (by decide))).trans near
    have other : coefficient ≠ 10 ^ (index + 1) := by
      rintro rfl
      exact last (by rw [Nat.pow_succ, Nat.mul_mod_left])
    exact (Nat.length_toDigits_le_iff (by decide) (Nat.succ_pos index)).mpr (lt_of_le_of_ne atMost other)
  have least : ∀ other place, Fits code other place → index + 1 ≤ digitCount other := by
    intro other place fits
    by_contra! fewer
    obtain ⟨before, rfl⟩ : ∃ before, index = before + 1 := ⟨index - 1, by have := digitCount_pos other; omega⟩
    obtain ⟨hit, fits', -⟩ := fits.onGrid (fits.pos nonzero) low high before (by omega)
    exact first before (Nat.lt_succ_self _) hit fits'
  refine ⟨?_, by omega, fun other place fits => count.trans (least other place fits), fun other place fits length => ?_⟩
  · rw [Fits, same]
    exact chosen.fits
  · obtain ⟨hit, fits', closer⟩ := fits.onGrid (fits.pos nonzero) low high index (by omega)
    rw [distance, same]
    exact (chosen.closest hit fits').trans closer

theorem exactly_eq (code : Nat) : ((4 * level code : Nat) / quartersPerOne : ℚ) = exactly code := by
  rw [exactly, quartersPerOne_cast, Nat.cast_mul, Nat.cast_ofNat, mul_div_mul_left _ _ four_ne_zero]

def fromGrid? (code : Nat) (point : Int) (index : Nat) : Option Decimal :=
  ((Interval.between code).onGrid? (powerOfTen (point - (index + 1)))).map fun coefficient =>
    Decimal.ofCoefficient coefficient (point - (index + 1))

theorem fromGrid?_eq_none_iff {code index : Nat} {point : Int} :
    fromGrid? code point index = none ↔ ∀ other, ¬Fits code other (point - (index + 1)) := by
  rw [fromGrid?, Option.map_eq_none_iff]
  rcases onGrid?_spec code (point - (index + 1)) with ⟨coefficient, found, chosen⟩ | ⟨nothing, none⟩
  · rw [found]
    exact ⟨nofun, fun none => absurd chosen.fits (none coefficient)⟩
  · exact ⟨fun _ => none, fun _ => nothing⟩

/-- The shortest decimal of a double is the best one for its code. -/
theorem shortest_spec {mantissa shift : Nat} (normal : Normal mantissa shift) (positive : 0 < mantissa)
    (short : mantissa < 2 ^ 53) :
    ∃ coefficient exponent, coefficient % 10 ≠ 0 ∧ Best (codeOf mantissa shift) coefficient exponent ∧
      shortest mantissa shift = .scaled coefficient exponent := by
  have nonzero : 0 < codeOf mantissa shift := by unfold codeOf; omega
  have quarters : 0 < 4 * level (codeOf mantissa shift) :=
    Nat.mul_pos (by decide) (level_zero ▸ level_strictMono nonzero)
  have unfolded : shortest mantissa shift = ((List.range 17).findSome?
      (fromGrid? (codeOf mantissa shift) (decimalPoint (4 * level (codeOf mantissa shift)) quartersPerOne))).getD
        { digits := ['0'], point := 1 } := by
    rw [shortest, ofFinite_eq normal positive short]
    rfl
  obtain ⟨low, high⟩ := decimalPoint_bounds quarters (Nat.mul_pos (by decide : 0 < 4) unitsPerOne_pos)
  rw [← quartersPerOne, exactly_eq] at low high
  generalize decimalPoint _ _ = point at low high unfolded
  have enough := fits_seventeen normal positive short low
  generalize codeOf mantissa shift = code at nonzero low high unfolded enough ⊢
  obtain ⟨index, below, hit, first, same⟩ := exists_first (fromGrid? code point) 17
    ⟨16, by decide, fun nothing => enough.elim (fromGrid?_eq_none_iff.mp nothing)⟩
  rw [unfolded, same]
  rcases onGrid?_spec code (point - (index + 1)) with ⟨number, found, chosen⟩ | ⟨-, none⟩
  · obtain ⟨coefficient, zeros, rfl, last, decimal⟩ :=
      ofCoefficient_eq (chosen.fits.pos nonzero) (point - (index + 1))
    have best := chosen.best nonzero last low high below fun before behind =>
      fromGrid?_eq_none_iff.mp (first before behind)
    exact ⟨coefficient, _, last, best, by rw [fromGrid?, found, Option.map_some, Option.getD_some, decimal]⟩
  · exact absurd (fromGrid?_eq_none_iff.mpr none) hit

end Stepwise.Number
