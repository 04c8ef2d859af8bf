import Stepwise.Proofs.Doubles
import Stepwise.Proofs.Doubles.Digits

/-!
# Rounding to a double

Half way between the levels of two successive codes lies the boundary between the places that round to the one and
those that round to the other; a boundary itself rounds to the even code. So the places that round to a code form an
interval around its level, and those of all codes cover the line without overlapping. The nearest double of a ratio
and the double of a decimal are those of the code that the exact place rounds to.
-/

namespace Stepwise.Number

set_option autoImplicit false

/-- Twice the place that separates a code from the one before. -/
def boundary (code : Nat) : Nat := level (code - 1) + level code

theorem boundary_succ (code : Nat) : boundary (code + 1) = level code + level (code + 1) := rfl

theorem boundary_succ_eq (code : Nat) : boundary (code + 1) = 2 * level code + 2 ^ spacing code := by
  rw [boundary_succ, level_succ]
  ring

theorem boundary_add (code : Nat) (positive : 0 < code) : boundary code + 2 ^ spacing (code - 1) = 2 * level code := by
  obtain ⟨before, rfl⟩ : ∃ before, code = before + 1 := ⟨code - 1, by omega⟩
  rw [boundary_succ, level_succ, Nat.add_sub_cancel]
  ring

theorem boundary_strictMono : StrictMono boundary :=
  strictMono_nat_of_lt_succ fun code => by
    have before : level (code - 1) ≤ level code := level_strictMono.monotone (Nat.sub_le _ _)
    have after : level code < level (code + 1) := level_strictMono (Nat.lt_succ_self _)
    rw [boundary_succ, boundary]
    omega

structure RoundsTo (place : ℚ) (code : Nat) : Prop where
  low : boundary code ≤ 2 * place
  high : 2 * place ≤ boundary (code + 1)
  even : 2 * place = boundary code ∨ 2 * place = boundary (code + 1) → Even code

namespace RoundsTo

variable {place other between : ℚ} {code second : Nat}

theorem mono (first : RoundsTo place code) (last : RoundsTo other second) (ordered : place ≤ other) :
    code ≤ second := by
  by_contra! behind
  have step : (boundary (second + 1) : ℚ) ≤ boundary code := by
    exact_mod_cast boundary_strictMono.monotone behind
  have low := first.low
  have high := last.high
  -- both places are on the boundary, which belongs to one of the two codes only
  have touching : (boundary (second + 1) : ℚ) = boundary code := by linarith
  have next : second + 1 = code := boundary_strictMono.injective (by exact_mod_cast touching)
  have evenCode := first.even (.inl (by linarith))
  have evenSecond := last.even (.inr (by linarith))
  rw [← next, Nat.even_add_one] at evenCode
  exact evenCode evenSecond

theorem unique (first : RoundsTo place code) (also : RoundsTo place second) : code = second :=
  Nat.le_antisymm (first.mono also le_rfl) (also.mono first le_rfl)

theorem of_lt (above : boundary code < 2 * place) (below : 2 * place < boundary (code + 1)) : RoundsTo place code :=
  ⟨above.le, below.le, fun tie => tie.elim (fun low => absurd low above.ne') fun high => absurd high below.ne⟩

theorem convex (first : RoundsTo place code) (last : RoundsTo other code) (after : place ≤ between)
    (before : between ≤ other) : RoundsTo between code where
  low := by linarith [first.low]
  high := by linarith [last.high]
  even := by
    rintro (low | high)
    · exact first.even (.inl (by linarith [first.low]))
    · exact last.even (.inr (by linarith [last.high]))

theorem level (code : Nat) : RoundsTo (level code) code := by
  have before : Number.level (code - 1) ≤ Number.level code := level_strictMono.monotone (Nat.sub_le _ _)
  have after : Number.level code < Number.level (code + 1) := level_strictMono (Nat.lt_succ_self _)
  refine ⟨?_, ?_, ?_⟩
  · exact_mod_cast (by rw [boundary]; omega : boundary code ≤ 2 * Number.level code)
  · exact_mod_cast (by rw [boundary_succ]; omega : 2 * Number.level code ≤ boundary (code + 1))
  · rintro (low | high)
    · have same : Number.level (code - 1) = Number.level code := by
        have : 2 * Number.level code = boundary code := by exact_mod_cast low
        rw [boundary] at this
        omega
      have := level_strictMono.injective same
      exact ⟨0, by omega⟩
    · have : 2 * Number.level code = boundary (code + 1) := by exact_mod_cast high
      rw [boundary_succ] at this
      omega

end RoundsTo

structure RoundsToInteger (ratio : ℚ) (integer : Nat) : Prop where
  low : 2 * integer - 1 ≤ 2 * ratio
  high : 2 * ratio ≤ 2 * integer + 1
  even : 2 * ratio = 2 * integer - 1 ∨ 2 * ratio = 2 * integer + 1 → Even integer

theorem roundHalfEven_roundsTo (numerator : Nat) {denominator : Nat} (positive : 0 < denominator) :
    RoundsToInteger (numerator / denominator) (roundHalfEven numerator denominator) := by
  have positive' : (0 : ℚ) < denominator := Nat.cast_pos.mpr positive
  have split : (numerator / denominator : ℚ) =
      (numerator / denominator : Nat) + (numerator % denominator : Nat) / (denominator : ℚ) := by
    rw [eq_comm, ← mul_right_inj' positive'.ne']
    field_simp
    exact_mod_cast Nat.div_add_mod numerator denominator
  have rest : (0 : ℚ) ≤ (numerator % denominator : Nat) / (denominator : ℚ) := by positivity
  have whole : ((numerator % denominator : Nat) : ℚ) / denominator < 1 := by
    rw [div_lt_one positive']
    exact_mod_cast Nat.mod_lt _ positive
  unfold roundHalfEven
  rw [split]
  simp only
  by_cases below : 2 * (numerator % denominator) < denominator
  · have small : 2 * ((numerator % denominator : Nat) / (denominator : ℚ)) < 1 := by
      rw [← mul_div_assoc, div_lt_one positive']
      exact_mod_cast below
    rw [if_pos below]
    constructor
    · linarith
    · linarith
    · rintro (tie | tie) <;> linarith
  by_cases above : denominator < 2 * (numerator % denominator)
  · have large : 1 < 2 * ((numerator % denominator : Nat) / (denominator : ℚ)) := by
      rw [← mul_div_assoc, one_lt_div positive']
      exact_mod_cast above
    rw [if_neg below, if_pos above]
    constructor <;> push_cast
    · linarith
    · linarith
    · rintro (tie | tie) <;> linarith
  · have half : 2 * ((numerator % denominator : Nat) / (denominator : ℚ)) = 1 := by
      rw [← mul_div_assoc, div_eq_one_iff_eq positive'.ne']
      exact_mod_cast (by omega : 2 * (numerator % denominator) = denominator)
    rw [if_neg below, if_neg above]
    generalize numerator / denominator = quotient
    rcases Nat.even_or_odd quotient with even | odd
    · rw [Nat.even_iff.mp even, Nat.add_zero]
      exact ⟨by linarith, by linarith, fun _ => even⟩
    · have next : ((quotient + 1 : Nat) : ℚ) = quotient + 1 := Nat.cast_succ quotient
      rw [Nat.odd_iff.mp odd]
      exact ⟨by linarith, by linarith, fun _ => odd.add_one⟩

section Scaled

variable {ratio : ℚ} {mantissa shift : Nat}

theorem even_codeOf : Even (codeOf mantissa shift) ↔ Even mantissa := by
  rw [Nat.even_iff, Nat.even_iff, codeOf]
  omega

theorem spacing_codeOf (normal : Normal mantissa shift) (short : mantissa < 2 ^ 53) :
    spacing (codeOf mantissa shift) = shift := by
  have long := normal.long
  unfold spacing codeOf
  omega

theorem spacing_before (normal : Normal mantissa shift) (positive : 0 < mantissa) :
    spacing (codeOf mantissa shift - 1) = if mantissa = 2 ^ 52 ∧ 0 < shift then shift - 1 else shift := by
  have long := normal.long
  have short := normal.short
  unfold spacing codeOf
  split <;> omega

theorem Normal.le_boundary (normal : Normal mantissa shift) :
    (2 * mantissa + 1) * 2 ^ shift ≤ boundary (codeOf mantissa shift + 1) := by
  have wide : 2 ^ shift ≤ 2 ^ spacing (codeOf mantissa shift) := by
    refine Nat.pow_le_pow_right Nat.two_pos ?_
    have long := normal.long
    unfold spacing codeOf
    omega
  rw [boundary_succ_eq, level_of_normal normal]
  linarith

theorem Normal.boundary_cases (normal : Normal mantissa shift) :
    boundary (codeOf mantissa shift) + 2 ^ shift = 2 * mantissa * 2 ^ shift ∨
      boundary (codeOf mantissa shift) < 2 * mantissa * 2 ^ shift ∧ mantissa = 2 ^ 52 ∧ shift ≠ 0 ∨
      mantissa = 0 ∧ shift = 0 := by
  rcases Nat.eq_zero_or_pos mantissa with rfl | positive
  · exact .inr (.inr ⟨rfl, normal.long.resolve_left (by decide)⟩)
  have below := boundary_add (codeOf mantissa shift) (by unfold codeOf; omega)
  rw [level_of_normal normal, spacing_before normal positive, ← Nat.mul_assoc] at below
  split at below
  case isTrue power =>
    have gap := Nat.two_pow_pos (shift - 1)
    exact .inr (.inl ⟨by omega, power.1, power.2.ne'⟩)
  case isFalse => exact .inl below

theorem RoundsToInteger.normal (rounds : RoundsToInteger ratio mantissa) (short : ratio < 2 ^ 53)
    (long : 2 ^ 52 ≤ ratio ∨ shift = 0) : Normal mantissa shift := by
  constructor
  · have below : (mantissa : ℚ) < 2 ^ 53 + 1 := by linarith [rounds.low]
    exact Nat.lt_succ_iff.mp (by exact_mod_cast below)
  · refine long.imp_left fun reached => ?_
    have above : (2 ^ 52 : ℚ) < mantissa + 1 := by linarith [rounds.high]
    exact Nat.lt_succ_iff.mp (by exact_mod_cast above)

/-- A ratio that rounds to a mantissa rounds, scaled by the shift, to the code that the two make up. -/
theorem RoundsToInteger.scaled (rounds : RoundsToInteger ratio mantissa) (normal : Normal mantissa shift)
    (positive : 0 ≤ ratio) (long : 2 ^ 52 ≤ ratio ∨ shift = 0) :
    RoundsTo (ratio * 2 ^ shift) (codeOf mantissa shift) := by
  have scale : (0 : ℚ) < 2 ^ shift := by positivity
  have above : ((2 * mantissa + 1) * 2 ^ shift : ℚ) ≤ boundary (codeOf mantissa shift + 1) := by
    exact_mod_cast normal.le_boundary
  have high : 2 * (ratio * 2 ^ shift) ≤ (2 * mantissa + 1) * 2 ^ shift := by nlinarith [rounds.high]
  have tieHigh : 2 * (ratio * 2 ^ shift) = boundary (codeOf mantissa shift + 1) → Even (codeOf mantissa shift) := by
    intro tie
    refine even_codeOf.mpr (rounds.even (.inr ?_))
    have scaled : 2 * ratio * 2 ^ shift = (2 * mantissa + 1) * 2 ^ shift := by linarith
    exact mul_right_cancel₀ scale.ne' scaled
  rcases normal.boundary_cases with below | ⟨below, power, large⟩ | ⟨rfl, rfl⟩
  · have exact : (boundary (codeOf mantissa shift) : ℚ) = (2 * mantissa - 1) * 2 ^ shift := by
      have : (boundary (codeOf mantissa shift) + 2 ^ shift : ℚ) = 2 * mantissa * 2 ^ shift := by exact_mod_cast below
      linarith
    have low : (2 * mantissa - 1) * 2 ^ shift ≤ 2 * (ratio * 2 ^ shift) := by nlinarith [rounds.low]
    refine ⟨exact ▸ low, high.trans above, ?_⟩
    rintro (tie | tie)
    · refine even_codeOf.mpr (rounds.even (.inl ?_))
      have scaled : 2 * ratio * 2 ^ shift = (2 * mantissa - 1) * 2 ^ shift := by linarith
      exact mul_right_cancel₀ scale.ne' scaled
    · exact tieHigh tie
  · have reached : (mantissa : ℚ) ≤ ratio := by
      rw [power]
      exact_mod_cast long.resolve_right large
    have low : (boundary (codeOf mantissa shift) : ℚ) < 2 * (ratio * 2 ^ shift) := by
      have : (boundary (codeOf mantissa shift) : ℚ) < 2 * mantissa * 2 ^ shift := by exact_mod_cast below
      nlinarith
    exact ⟨low.le, high.trans above, fun tie => tie.elim (fun same => absurd same low.ne') tieHigh⟩
  · have least : boundary (codeOf 0 0) = 0 := rfl
    refine ⟨?_, high.trans above, fun _ => ⟨0, rfl⟩⟩
    rw [least, Nat.cast_zero]
    positivity

end Scaled

/-- The shift under which a magnitude of that many whole units has a mantissa of 53 bits, as far as there is one. -/
theorem shift_bounds (whole : Nat) :
    whole < 2 ^ 53 * 2 ^ (whole.log2 - 52) ∧ (2 ^ 52 * 2 ^ (whole.log2 - 52) ≤ whole ∨ whole.log2 - 52 = 0) := by
  rcases Nat.eq_zero_or_pos whole with rfl | positive
  · decide
  have above : whole < 2 ^ (whole.log2 + 1) := Nat.lt_log2_self
  have below : 2 ^ whole.log2 ≤ whole := Nat.log2_self_le positive.ne'
  constructor
  · rw [← Nat.pow_add]
    exact above.trans_le (Nat.pow_le_pow_right Nat.two_pos (by omega))
  · by_cases large : 52 ≤ whole.log2
    · left
      rwa [← Nat.pow_add, Nat.add_sub_cancel' large]
    · right
      omega

/-- The nearest double of a ratio is the one that its exact place rounds to. -/
theorem nearest_roundsTo (negative : Bool) (numerator : Nat) {denominator : Nat} (positive : 0 < denominator) :
    ∃ code, nearest negative numerator denominator = ofCode negative code ∧
      RoundsTo (numerator / denominator * oneInUnits) code := by
  unfold nearest oneInUnits
  generalize unitsPerOne = one
  simp only
  obtain ⟨above, below⟩ := shift_bounds (numerator * one / denominator)
  generalize (numerator * one / denominator).log2 - 52 = shift at above below ⊢
  have scale : 0 < denominator * 2 ^ shift := Nat.mul_pos positive (Nat.two_pow_pos shift)
  have rounds := roundHalfEven_roundsTo (numerator * one) scale
  have short : ((numerator * one : Nat) / (denominator * 2 ^ shift : Nat) : ℚ) < 2 ^ 53 := by
    rw [div_lt_iff₀ (by exact_mod_cast scale)]
    have : numerator * one < 2 ^ 53 * 2 ^ shift * denominator := (Nat.div_lt_iff_lt_mul positive).mp above
    exact_mod_cast (by linarith : numerator * one < 2 ^ 53 * (denominator * 2 ^ shift))
  have long : (2 ^ 52 : ℚ) ≤ (numerator * one : Nat) / (denominator * 2 ^ shift : Nat) ∨ shift = 0 := by
    refine below.imp_left fun reached => ?_
    rw [le_div_iff₀ (by exact_mod_cast scale)]
    have : 2 ^ 52 * 2 ^ shift * denominator ≤ numerator * one := (Nat.le_div_iff_mul_le positive).mp reached
    exact_mod_cast (by linarith : 2 ^ 52 * (denominator * 2 ^ shift) ≤ numerator * one)
  refine ⟨_, pack_eq_ofCode _ _ _, ?_⟩
  have place : (numerator / denominator * one : ℚ) =
      (numerator * one : Nat) / (denominator * 2 ^ shift : Nat) * 2 ^ shift := by
    push_cast
    field_simp
  rw [place]
  exact rounds.scaled (rounds.normal short long) (by positivity) long

theorem decimal_bounds {coefficient : Nat} (positive : 0 < coefficient) (exponent : Int) :
    (10 : ℚ) ^ (digitCount coefficient + exponent - 1) ≤ coefficient * 10 ^ exponent ∧
      coefficient * 10 ^ exponent < (10 : ℚ) ^ (digitCount coefficient + exponent) := by
  have scale : (0 : ℚ) < 10 ^ exponent := by positivity
  constructor
  · have low : (10 : ℚ) ^ (digitCount coefficient - 1) ≤ coefficient := by exact_mod_cast pow_digitCount_le positive
    have split : (digitCount coefficient + exponent - 1 : Int) = (digitCount coefficient - 1 : Nat) + exponent := by
      have := digitCount_pos coefficient
      omega
    rw [split, zpow_add₀ (by norm_num), zpow_natCast]
    exact mul_le_mul_of_nonneg_right low scale.le
  · have high : (coefficient : ℚ) < 10 ^ digitCount coefficient := by exact_mod_cast lt_pow_digitCount coefficient
    rw [zpow_add₀ (by norm_num), zpow_natCast]
    exact mul_lt_mul_of_pos_right high scale

theorem units_lt : 2 * unitsPerOne < 10 ^ 400 := by decide +kernel

theorem level_infinity_le : level infinityBits ≤ 10 ^ 400 * unitsPerOne := by decide +kernel

theorem nearest_decimal (negative : Bool) (coefficient : Nat) (exponent : Int) :
    ∃ code, RoundsTo (coefficient * 10 ^ exponent * oneInUnits) code ∧
      (if 0 ≤ exponent then nearest negative (coefficient * Nat.pow 10 exponent.toNat) 1
        else nearest negative coefficient (Nat.pow 10 (-exponent).toNat)) = ofCode negative code := by
  by_cases whole : 0 ≤ exponent
  · obtain ⟨places, rfl⟩ := Int.eq_ofNat_of_zero_le whole
    obtain ⟨code, same, rounds⟩ := nearest_roundsTo negative (coefficient * 10 ^ places) Nat.one_pos
    refine ⟨code, ?_, by rw [if_pos whole]; exact same⟩
    rw [zpow_natCast]
    simpa using rounds
  · obtain ⟨places, rfl⟩ : ∃ places : Nat, exponent = -places := ⟨(-exponent).toNat, by omega⟩
    have ten : 0 < 10 ^ places := Nat.pow_pos (by decide)
    obtain ⟨code, same, rounds⟩ := nearest_roundsTo negative coefficient ten
    refine ⟨code, ?_, ?_⟩
    · rw [zpow_neg, zpow_natCast, ← div_eq_mul_inv]
      exact_mod_cast rounds
    · rw [if_neg whole, Int.neg_neg, Int.toNat_natCast]
      exact same

/-- A decimal more than 400 places behind the point rounds to zero. -/
theorem roundsTo_zero {coefficient : Nat} {exponent : Int} (tiny : (digitCount coefficient : Int) + exponent ≤ -400) :
    RoundsTo (coefficient * 10 ^ exponent * oneInUnits) 0 := by
  have positive : (0 : ℚ) ≤ coefficient * 10 ^ exponent * oneInUnits := mul_nonneg (by positivity) oneInUnits_pos.le
  have small : 2 * (coefficient * 10 ^ exponent * oneInUnits : ℚ) < 1 := by
    rcases Nat.eq_zero_or_pos coefficient with rfl | nonzero
    · norm_num
    · have below : (coefficient * 10 ^ exponent : ℚ) < (10 ^ 400)⁻¹ := by
        refine (decimal_bounds nonzero exponent).2.trans_le ?_
        rw [← zpow_natCast, ← zpow_neg]
        exact zpow_le_zpow_right₀ (by norm_num) tiny
      have few : 2 * oneInUnits < 10 ^ 400 := by
        unfold oneInUnits
        exact_mod_cast units_lt
      have present := oneInUnits_pos
      calc 2 * (coefficient * 10 ^ exponent * oneInUnits : ℚ)
          = coefficient * 10 ^ exponent * (2 * oneInUnits) := by ring
        _ ≤ (10 ^ 400)⁻¹ * (2 * oneInUnits) := mul_le_mul_of_nonneg_right below.le (by linarith)
        _ < (10 ^ 400)⁻¹ * 10 ^ 400 := mul_lt_mul_of_pos_left few (by positivity)
        _ = 1 := inv_mul_cancel₀ (by positivity)
  have first : boundary 0 = 0 := rfl
  have second : boundary (0 + 1) = 1 := rfl
  refine ⟨?_, ?_, fun _ => ⟨0, rfl⟩⟩
  · rw [first, Nat.cast_zero]
    linarith
  · rw [second, Nat.cast_one]
    exact small.le

/-- A decimal more than 400 places before the point rounds to no finite double. -/
theorem infinity_le_of_roundsTo {coefficient code : Nat} {exponent : Int} (nonzero : 0 < coefficient)
    (huge : 400 < (digitCount coefficient : Int) + exponent)
    (rounds : RoundsTo (coefficient * 10 ^ exponent * oneInUnits) code) : infinityBits ≤ code := by
  have above : (10 : ℚ) ^ 400 ≤ coefficient * 10 ^ exponent := by
    refine le_trans ?_ (decimal_bounds nonzero exponent).1
    rw [← zpow_natCast]
    exact zpow_le_zpow_right₀ (by norm_num) (by push_cast; omega)
  refine (RoundsTo.level infinityBits).mono rounds ?_
  have last : (level infinityBits : ℚ) ≤ 10 ^ 400 * oneInUnits := by
    unfold oneInUnits
    exact_mod_cast level_infinity_le
  exact last.trans (mul_le_mul_of_nonneg_right above oneInUnits_pos.le)

theorem ofDecimal_roundsTo (negative : Bool) (coefficient : Nat) (exponent : Int) :
    ∃ code, ofDecimal negative coefficient exponent = ofCode negative code ∧
      RoundsTo (coefficient * 10 ^ exponent * oneInUnits) code := by
  unfold ofDecimal
  change ∃ code, (if coefficient = 0 ∨ (digitCount coefficient : Int) + exponent < -400 then _
    else if 400 < (digitCount coefficient : Int) + exponent then _ else _) = _ ∧ _
  split
  case isTrue tiny =>
    refine ⟨0, rfl, ?_⟩
    rcases tiny with rfl | tiny
    · have zero := RoundsTo.level 0
      rw [level_zero, Nat.cast_zero] at zero
      simpa using zero
    · exact roundsTo_zero tiny.le
  case isFalse sized =>
    obtain ⟨code, rounds, same⟩ := nearest_decimal negative coefficient exponent
    refine ⟨code, ?_, rounds⟩
    split
    case isFalse => exact same
    case isTrue huge =>
      have nonzero : 0 < coefficient := Nat.pos_of_ne_zero fun zero => sized (.inl zero)
      rw [ofCode_of_infinity_le negative (infinity_le_of_roundsTo nonzero huge rounds)]
      exact congrArg (ofCode negative) (Nat.zero_add _)

/-- The double of a decimal is finite and has the code if the exact place of the decimal rounds to it. -/
theorem ofDecimal_eq_iff {negative : Bool} {coefficient code : Nat} {exponent : Int} (finite : code < infinityBits) :
    ofDecimal negative coefficient exponent = ofCode negative code ↔
      RoundsTo (coefficient * 10 ^ exponent * oneInUnits) code := by
  obtain ⟨found, same, rounds⟩ := ofDecimal_roundsTo negative coefficient exponent
  rw [same]
  constructor
  · intro equal
    have codes := (ofCode_inj equal).2
    obtain rfl : found = code := by omega
    exact rounds
  · intro also
    rw [rounds.unique also]

end Stepwise.Number
