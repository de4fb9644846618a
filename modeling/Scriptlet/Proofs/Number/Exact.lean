/-
# Proofs.Number.Exact -- what floats stand for, and when they are equal

A finite float stands for a rational number, its significand times a power of two (`exact`).  It
stands for an integer if that is the same number (`toInt?_eq_some_iff_exact`).

Equal floats are the same float, but for the signs of the zeros (`eq_of_equals`): more units belong
to a larger exponent or a larger fraction, and infinity has a place above all finite floats.  So
equality of floats is symmetric and chains, only a NaN is not equal to itself, and equal floats
stand for the same integers.
-/
import Mathlib.Algebra.Field.Rat
import Mathlib.Tactic.Ring
import Scriptlet.Proofs.Number.Rounding

namespace Scriptlet.Binary64

set_option autoImplicit false

variable {x y z : Binary64} {i : Int}

/-! ## Exact values -/

/-- The rational number that a finite float stands for. -/
def exact (x : Binary64) : ℚ :=
  (if x.negative then -1 else 1) * x.significand * 2 ^ ((max x.exponent.val 1 : Nat) - 1075 : Int)

/-- The units of a float are its value, counted in units. -/
theorem exact_mul_one (x : Binary64) : x.exact * one = x.key := by
  have scale : (2 : ℚ) ^ ((max x.exponent.val 1 : Nat) - 1075 : Int) * one
      = (2 ^ (x.exponent.val - 1) : Nat) := by
    rw [one_eq_pow, Nat.cast_pow, Nat.cast_pow, ← zpow_natCast, ← zpow_natCast, Nat.cast_ofNat,
      ← zpow_add₀ two_ne_zero]
    congr 1
    omega
  rw [exact, mul_assoc, scale, key, magnitude, Nat.pow_eq]
  cases x.negative <;> push_cast <;> simp

/-- A float stands for an integer if it is finite and that is its value. -/
theorem toInt?_eq_some_iff_exact : x.toInt? = some i ↔ x.isFinite = true ∧ x.exact = i := by
  have nonzero : (one : ℚ) ≠ 0 := Nat.cast_ne_zero.mpr (Nat.ne_of_gt one_pos)
  rw [toInt?_eq_some_iff, ← mul_left_inj' nonzero, exact_mul_one]
  refine and_congr_right fun _ => ?_
  exact_mod_cast Iff.rfl

/-! ## Equal floats -/

theorem equals_iff : x.equals y = true ↔ x.isNaN = false ∧ y.isNaN = false ∧ x.key = y.key := by
  simp [equals, and_assoc]

theorem equals_symm (equal : x.equals y = true) : y.equals x = true := by
  obtain ⟨left, right, same⟩ := equals_iff.mp equal
  exact equals_iff.mpr ⟨right, left, same.symm⟩

theorem equals_trans (equal : x.equals y = true) (also : y.equals z = true) :
    x.equals z = true := by
  obtain ⟨left, -, same⟩ := equals_iff.mp equal
  obtain ⟨-, right, other⟩ := equals_iff.mp also
  exact equals_iff.mpr ⟨left, right, same.trans other⟩

theorem equals_self_iff : x.equals x = true ↔ x.isNaN = false := by
  simp [equals_iff]

theorem isNaN_of_isFinite (finite : x.isFinite = true) : x.isNaN = false := by
  have inner : x.exponent.val ≠ 2047 := by simpa [isFinite] using finite
  simp [isNaN, inner]

/-- Floats that stand for one integer are equal. -/
theorem equals_of_toInt? (left : x.toInt? = some i) (right : y.toInt? = some i) :
    x.equals y = true := by
  obtain ⟨finite, units⟩ := toInt?_eq_some_iff.mp left
  obtain ⟨also, others⟩ := toInt?_eq_some_iff.mp right
  exact equals_iff.mpr ⟨isNaN_of_isFinite finite, isNaN_of_isFinite also, units.trans others.symm⟩

/-- Infinity has a place above all finite floats. -/
theorem magnitude_lt_infinity (finite : x.isFinite = true) (negative : Bool) :
    x.magnitude < (infinity negative).magnitude := by
  have inner : x.exponent.val ≠ 2047 := by simpa [isFinite] using finite
  have last : unitsOf (2047 * 4503599627370496 - 1) < unitsOf (2047 * 4503599627370496) := by
    decide +kernel
  rw [magnitude_infinity, ← ofPattern_parts finite, magnitude_ofPattern]
  exact Nat.lt_of_le_of_lt (unitsOf_mono (by omega)) last

/-- A float that is not a NaN is known by its sign and its units. -/
theorem eq_of_magnitude (left : x.isNaN = false) (right : y.isNaN = false)
    (sign : x.negative = y.negative) (units : x.magnitude = y.magnitude) : x = y := by
  cases finite : x.isFinite <;> cases also : y.isFinite
  · rw [eq_infinity left finite, eq_infinity right also, sign]
  · have less := magnitude_lt_infinity also x.negative
    rw [← eq_infinity left finite, units] at less
    exact absurd less (Nat.lt_irrefl _)
  · have less := magnitude_lt_infinity finite y.negative
    rw [← eq_infinity right also, units] at less
    exact absurd less (Nat.lt_irrefl _)
  · rw [← round_magnitude finite, ← round_magnitude also, sign, units]

/-- Equal floats are one float or two zeros. -/
theorem eq_of_equals (equal : x.equals y = true) :
    x = y ∨ x.magnitude = 0 ∧ y.magnitude = 0 := by
  obtain ⟨left, right, same⟩ := equals_iff.mp equal
  have units : x.magnitude = y.magnitude := by rw [← natAbs_key, same, natAbs_key]
  rcases Nat.eq_zero_or_pos x.magnitude with zero | positive
  · exact .inr ⟨zero, units ▸ zero⟩
  · refine .inl (eq_of_magnitude left right ?_ units)
    unfold key at same
    cases sign : x.negative <;> cases other : y.negative <;>
      simp only [sign, other, reduceIte, Bool.false_eq_true] at same ⊢ <;> omega

theorem key_of_magnitude (zero : x.magnitude = 0) : x.key = 0 := by
  rw [← Int.natAbs_eq_zero, natAbs_key, zero]

/-- The float without the sign of a zero. -/
def canonical (x : Binary64) : Binary64 := if x.magnitude = 0 then zero false else x

theorem key_canonical (x : Binary64) : x.canonical.key = x.key := by
  unfold canonical
  split
  · next zero =>
    rw [key_of_magnitude zero]
    rfl
  · rfl

/-- Floats are equal if they are one float but for the sign of a zero. -/
theorem equals_iff_canonical :
    x.equals y = true ↔ x.canonical = y.canonical ∧ x.isNaN = false ∧ y.isNaN = false := by
  constructor
  · intro equal
    obtain ⟨left, right, -⟩ := equals_iff.mp equal
    refine ⟨?_, left, right⟩
    rcases eq_of_equals equal with rfl | ⟨zero, also⟩
    · rfl
    · rw [canonical, canonical, if_pos zero, if_pos also]
  · rintro ⟨same, left, right⟩
    exact equals_iff.mpr ⟨left, right, by rw [← key_canonical, same, key_canonical]⟩

theorem toInt?_of_magnitude (number : x.isNaN = false) (zero : x.magnitude = 0) :
    x.toInt? = some 0 := by
  refine toInt?_eq_some_iff.mpr ⟨isFinite_of_magnitude number (zero ▸ Nat.zero_le _), ?_⟩
  rw [Int.zero_mul, key_of_magnitude zero]

/-- Equal floats stand for the same integer, or both for none. -/
theorem toInt?_of_equals (equal : x.equals y = true) : x.toInt? = y.toInt? := by
  obtain ⟨left, right, -⟩ := equals_iff.mp equal
  rcases eq_of_equals equal with rfl | ⟨zero, also⟩
  · rfl
  · rw [toInt?_of_magnitude left zero, toInt?_of_magnitude right also]

end Scriptlet.Binary64
