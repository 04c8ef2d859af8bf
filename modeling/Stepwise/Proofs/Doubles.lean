import Mathlib
import Stepwise.Number.Binary64

/-!
# The order of doubles

The bits of a double, its sign aside, count the magnitudes in their order: zero is the first, an infinity the one
after the last that is finite. That count is the code of the magnitude. The level of a code is the magnitude in units;
the finite doubles of a sign are those with a code below that of an infinity.
-/

namespace Stepwise.Number

set_option autoImplicit false

open Float.Model Float.Model.UnpackedFloat

section Bits

variable {bits : BitVec Format.binary64.numBits}

theorem toNat_unpackExponent : (unpackExponent bits).toNat = bits.toNat / 2 ^ 52 % 2 ^ 11 := by
  simp [unpackExponent, BitVec.extractLsb, Nat.shiftRight_eq_div_pow]

theorem toNat_unpackMantissa : (unpackMantissa bits).toNat = bits.toNat % 2 ^ 52 := by
  simp [unpackMantissa, BitVec.extractLsb]

theorem valid_of_le (number : bits.toNat % 2 ^ 63 ≤ infinityBits) : Format.binary64.Valid bits := by
  refine ⟨fun special fraction => absurd (BitVec.eq_of_toNat_eq ?_) fraction⟩
  have exponent := congrArg BitVec.toNat special
  rw [toNat_unpackExponent, show (-1#11).toNat = 2047 by decide] at exponent
  rw [toNat_unpackMantissa, BitVec.toNat_zero]
  rw [show infinityBits = 2047 * 2 ^ 52 from rfl] at number
  omega

end Bits

theorem toBits_ofBits {bits : UInt64} (number : bits.toNat % 2 ^ 63 ≤ infinityBits) :
    (Float.ofBits bits).toBits = bits := by
  have valid : Format.binary64.Valid bits.toBitVec := valid_of_le number
  simp only [Float.ofBits, Float.toBits, Float.Model.ofBits, Float.Model.pack, pack_unpack_of_valid valid]

/-- The double of the given sign and code; an infinity beyond the finite range. -/
def ofCode (negative : Bool) (code : Nat) : Float :=
  Float.ofBits (UInt64.ofNat ((if negative then 2 ^ 63 else 0) + min code infinityBits))

theorem ofCode_of_infinity_le (negative : Bool) {code : Nat} (beyond : infinityBits ≤ code) :
    ofCode negative code = ofCode negative infinityBits := by
  rw [ofCode, ofCode, Nat.min_eq_right beyond, Nat.min_self]

/-- The code that a mantissa and a shift make up. -/
def codeOf (mantissa shift : Nat) : Nat := shift * 2 ^ 52 + mantissa

theorem codeOf_succ (mantissa shift : Nat) : codeOf (mantissa + 1) shift = codeOf mantissa shift + 1 :=
  (Nat.add_assoc _ _ _).symm

theorem pack_eq_ofCode (negative : Bool) (mantissa shift : Nat) :
    pack negative mantissa shift = ofCode negative (codeOf mantissa shift) := rfl

theorem toNat_toBits_ofCode (negative : Bool) (code : Nat) :
    (ofCode negative code).toBits.toNat = (if negative then 2 ^ 63 else 0) + min code infinityBits := by
  have infinity : infinityBits = 2047 * 2 ^ 52 := rfl
  have small : (UInt64.ofNat ((if negative then 2 ^ 63 else 0) + min code infinityBits)).toNat =
      (if negative then 2 ^ 63 else 0) + min code infinityBits := by
    rw [UInt64.toNat_ofNat', Nat.mod_eq_of_lt]
    split <;> omega
  rw [ofCode, toBits_ofBits, small]
  rw [small]
  split <;> omega

theorem eq_ofCode {number : Float} {negative : Bool} {code : Nat} (finite : code ≤ infinityBits)
    (bits : number.toBits.toNat = (if negative then 2 ^ 63 else 0) + code) : number = ofCode negative code := by
  rw [ofCode, Nat.min_eq_left finite, ← bits, UInt64.ofNat_toNat, Float.ofBits_toBits]

theorem ofCode_inj {first second : Bool} {one two : Nat} (same : ofCode first one = ofCode second two) :
    first = second ∧ min one infinityBits = min two infinityBits := by
  have infinity : infinityBits = 2047 * 2 ^ 52 := rfl
  have bits := congrArg (fun number : Float => number.toBits.toNat) same
  simp only [toNat_toBits_ofCode] at bits
  cases first <;> cases second <;> simp only [reduceIte, reduceCtorEq, true_and, false_and] at bits ⊢ <;> omega

/-- How far the next level lies above that of a code, as a power of two. -/
def spacing (code : Nat) : Nat := code / 2 ^ 52 - 1

/-- The magnitude of a code, in units. -/
def level (code : Nat) : Nat :=
  if code < 2 ^ 52 then code else (code % 2 ^ 52 + 2 ^ 52) * 2 ^ spacing code

/-- A mantissa and a shift as a double has them. A mantissa of 2^53 is that of the next power of two. -/
structure Normal (mantissa shift : Nat) : Prop where
  short : mantissa ≤ 2 ^ 53
  long : 2 ^ 52 ≤ mantissa ∨ shift = 0

theorem level_of_normal {mantissa shift : Nat} (normal : Normal mantissa shift) :
    level (codeOf mantissa shift) = mantissa * 2 ^ shift := by
  obtain ⟨short, long⟩ := normal
  unfold level spacing codeOf
  by_cases small : mantissa < 2 ^ 52
  · obtain rfl : shift = 0 := by omega
    rw [if_pos (by omega), Nat.zero_mul, Nat.zero_add, Nat.pow_zero, Nat.mul_one]
  · rw [if_neg (by omega)]
    rcases Nat.lt_or_eq_of_le short with below | rfl
    · have rest : (shift * 2 ^ 52 + mantissa) % 2 ^ 52 + 2 ^ 52 = mantissa := by omega
      have place : (shift * 2 ^ 52 + mantissa) / 2 ^ 52 - 1 = shift := by omega
      rw [rest, place]
    · have rest : (shift * 2 ^ 52 + 2 ^ 53) % 2 ^ 52 + 2 ^ 52 = 2 ^ 52 := by omega
      have place : (shift * 2 ^ 52 + 2 ^ 53) / 2 ^ 52 - 1 = shift + 1 := by omega
      rw [rest, place]
      ring

theorem exists_normal (code : Nat) :
    ∃ mantissa, Normal mantissa (spacing code) ∧ mantissa < 2 ^ 53 ∧ code = codeOf mantissa (spacing code) := by
  refine ⟨code - spacing code * 2 ^ 52, ⟨?_, ?_⟩, ?_, ?_⟩ <;> unfold spacing <;> (try unfold codeOf) <;> omega

theorem level_succ (code : Nat) : level (code + 1) = level code + 2 ^ spacing code := by
  obtain ⟨mantissa, normal, below, same⟩ := exists_normal code
  generalize spacing code = shift at normal same ⊢
  have next : Normal (mantissa + 1) shift := ⟨by omega, normal.long.imp_left (by omega)⟩
  rw [same, ← codeOf_succ, level_of_normal normal, level_of_normal next, Nat.succ_mul]

theorem level_zero : level 0 = 0 := rfl

theorem level_strictMono : StrictMono level :=
  strictMono_nat_of_lt_succ fun code => by
    rw [level_succ]
    exact Nat.lt_add_of_pos_right (Nat.two_pow_pos _)

theorem unitsPerOne_pos : 0 < unitsPerOne := by decide +kernel

/-- One in units, as a rational. It has a name of its own because the number itself is too large to be computed with. -/
def oneInUnits : ℚ := (unitsPerOne : Nat)

theorem oneInUnits_pos : 0 < oneInUnits := Nat.cast_pos.mpr unitsPerOne_pos

def magnitude (mantissa shift : Nat) : ℚ :=
  (mantissa * Nat.pow 2 shift : Nat) / oneInUnits

def signed (negative : Bool) (value : ℚ) : ℚ :=
  if negative then -value else value

/-- A finite double has the code that its mantissa and shift make up. -/
theorem exists_code {number : Float} {negative : Bool} {mantissa shift : Nat}
    (finite : Parts.ofFloat number = .finite negative mantissa shift) :
    mantissa < 2 ^ 53 ∧ Normal mantissa shift ∧ codeOf mantissa shift < infinityBits ∧
      number = ofCode negative (codeOf mantissa shift) := by
  have infinity : infinityBits = 2047 * 2 ^ 52 := rfl
  have bound := number.toBits.toNat_lt
  suffices made : mantissa < 2 ^ 53 ∧ Normal mantissa shift ∧ codeOf mantissa shift < infinityBits ∧
      number.toBits.toNat = (if negative then 2 ^ 63 else 0) + codeOf mantissa shift by
    obtain ⟨short, normal, below, bits⟩ := made
    exact ⟨short, normal, below, eq_ofCode below.le bits⟩
  unfold Parts.ofFloat at finite
  unfold codeOf
  generalize number.toBits.toNat = bits at finite bound ⊢
  simp only [Nat.pow_eq] at finite
  split at finite
  · split at finite <;> cases finite
  · split at finite <;> cases finite <;>
      refine ⟨by omega, ⟨by omega, by omega⟩, by omega, ?_⟩ <;> by_cases negative : 2 ^ 63 ≤ bits <;>
      simp only [negative, decide_true, decide_false, reduceIte, Bool.false_eq_true] <;> omega

end Stepwise.Number
