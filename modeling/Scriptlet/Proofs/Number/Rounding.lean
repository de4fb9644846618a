/-
# Proofs.Number.Rounding -- the float nearest to a number of units

A number of units is rounded by way of the pattern of the result, its exponent and fraction read
as one number.  Both steps keep the order: more units have no smaller pattern (`patternOf_mono`),
and a larger pattern stands for no fewer units (`unitsOf_mono`), up to infinity.  So rounding
never turns the order of two numbers round.  And a finite float is what its own units are rounded
to (`round_magnitude`).
-/
import Mathlib.Algebra.Group.Nat.Defs
import Scriptlet.Number.Binary64

namespace Scriptlet.Binary64

set_option autoImplicit false

/-! ## The nearest whole number -/

section

variable {num more den bound : Nat}

theorem nearest_le (below : num < bound * den) : nearest num den ≤ bound := by
  have floor : num / den < bound := Nat.div_lt_of_lt_mul (by rwa [Nat.mul_comm])
  unfold nearest
  dsimp only
  split <;> omega

theorem le_nearest (positive : 0 < den) (above : bound * den ≤ num) : bound ≤ nearest num den := by
  have floor : bound ≤ num / den := (Nat.le_div_iff_mul_le positive).mpr above
  unfold nearest
  dsimp only
  split <;> omega

theorem nearest_mul (positive : 0 < den) (whole : Nat) : nearest (whole * den) den = whole := by
  unfold nearest
  dsimp only
  rw [Nat.mul_mod_left, Nat.mul_div_cancel _ positive, if_pos (.inl positive)]

theorem nearest_mono (le : num ≤ more) : nearest num den ≤ nearest more den := by
  have floors : num / den ≤ more / den := Nat.div_le_div_right le
  have split_num := Nat.div_add_mod num den
  have split_more := Nat.div_add_mod more den
  rcases Nat.lt_or_eq_of_le floors with less | same
  · unfold nearest
    dsimp only
    split <;> split <;> omega
  · have rests : num % den ≤ more % den := by
      rw [same] at split_num
      omega
    unfold nearest
    dsimp only
    split <;> split <;> omega

end

/-! ## Patterns -/

/-- Exponent and fraction, as one number, of the float nearest to so many units, if it is
finite. -/
def patternOf (units : Nat) : Nat :=
  (units.log2 - 52) * 4503599627370496 + nearest units (2 ^ (units.log2 - 52))

/-- The units of the float with this exponent and fraction. -/
def unitsOf (pattern : Nat) : Nat :=
  if pattern < 4503599627370496 then pattern
  else (4503599627370496 + pattern % 4503599627370496) * 2 ^ (pattern / 4503599627370496 - 1)

theorem round_one (negative : Bool) (units : Nat) :
    round negative units 1 = ofPattern negative (patternOf units) := by
  simp [round, patternOf]

/-- Of more than fifty-three bits the upper ones are kept, and a carry perhaps. -/
theorem nearest_bounds (units : Nat) :
    nearest units (2 ^ (units.log2 - 52)) ≤ 9007199254740992
      ∧ (units.log2 - 52 = 0 ∨ 4503599627370496 ≤ nearest units (2 ^ (units.log2 - 52))) := by
  constructor
  · refine nearest_le (Nat.lt_of_lt_of_le Nat.lt_log2_self ?_)
    rw [show (9007199254740992 : Nat) = 2 ^ 53 by decide, ← Nat.pow_add]
    exact Nat.pow_le_pow_right Nat.two_pos (by omega)
  · rcases Nat.eq_zero_or_pos (units.log2 - 52) with small | large
    · exact .inl small
    · have nonzero : units ≠ 0 := by
        rintro rfl
        exact absurd large (by decide)
      refine .inr (le_nearest (Nat.two_pow_pos _) ?_)
      rw [show (4503599627370496 : Nat) = 2 ^ 52 by decide, ← Nat.pow_add,
        show 52 + (units.log2 - 52) = units.log2 by omega]
      exact Nat.log2_self_le nonzero

theorem log2_mono {units more : Nat} (le : units ≤ more) : units.log2 ≤ more.log2 := by
  rcases Nat.eq_zero_or_pos units with rfl | positive
  · exact Nat.zero_le _
  · exact (Nat.le_log2 (by omega)).mpr
      (Nat.le_trans (Nat.log2_self_le (Nat.ne_of_gt positive)) le)

/-- More units have no smaller pattern. -/
theorem patternOf_mono {units more : Nat} (le : units ≤ more) :
    patternOf units ≤ patternOf more := by
  have bits := log2_mono le
  have lower := nearest_bounds units
  have upper := nearest_bounds more
  unfold patternOf
  rcases Nat.lt_or_eq_of_le (Nat.sub_le_sub_right bits 52) with less | same
  · omega
  · rw [same]
    exact Nat.add_le_add_left (nearest_mono le) _

/-- A larger pattern stands for no fewer units. -/
theorem unitsOf_mono {pattern larger : Nat} (le : pattern ≤ larger) :
    unitsOf pattern ≤ unitsOf larger := by
  have exponents : pattern / 4503599627370496 ≤ larger / 4503599627370496 :=
    Nat.div_le_div_right le
  unfold unitsOf
  split <;> split
  · exact le
  · calc pattern ≤ 4503599627370496 + larger % 4503599627370496 := by omega
      _ ≤ _ := Nat.le_mul_of_pos_right _ (Nat.two_pow_pos _)
  · omega
  · rcases Nat.lt_or_eq_of_le exponents with less | same
    · calc (4503599627370496 + pattern % 4503599627370496) * 2 ^ (pattern / 4503599627370496 - 1)
          ≤ 9007199254740992 * 2 ^ (pattern / 4503599627370496 - 1) :=
            Nat.mul_le_mul_right _ (by omega)
        _ = 4503599627370496 * 2 ^ (pattern / 4503599627370496 - 1 + 1) := by
            rw [Nat.pow_succ]
            omega
        _ ≤ 4503599627370496 * 2 ^ (larger / 4503599627370496 - 1) :=
            Nat.mul_le_mul_left _ (Nat.pow_le_pow_right Nat.two_pos (by omega))
        _ ≤ _ := Nat.mul_le_mul_right _ (Nat.le_add_right _ _)
    · rw [same]
      exact Nat.mul_le_mul_right _ (by omega)

theorem magnitude_infinity (negative : Bool) :
    (infinity negative).magnitude = unitsOf (2047 * 4503599627370496) := by
  cases negative <;> decide +kernel

/-- A pattern beyond all finite floats is that of infinity. -/
theorem magnitude_ofPattern (negative : Bool) (pattern : Nat) :
    (ofPattern negative pattern).magnitude = unitsOf (min pattern (2047 * 4503599627370496)) := by
  by_cases small : pattern < 2047 * 4503599627370496
  · rw [Nat.min_eq_left (Nat.le_of_lt small), ofPattern, dif_pos small]
    simp only [magnitude, significand, unitsOf, Nat.pow_eq]
    by_cases subnormal : pattern < 4503599627370496
    · rw [if_pos (by omega), if_pos subnormal, Nat.mod_eq_of_lt subnormal,
        Nat.div_eq_of_lt subnormal, Nat.zero_sub, Nat.pow_zero, Nat.mul_one]
    · rw [if_neg (by omega), if_neg subnormal]
  · rw [Nat.min_eq_right (Nat.le_of_not_lt small), ofPattern, dif_neg small]
    exact magnitude_infinity negative

@[simp] theorem negative_ofPattern (negative : Bool) (pattern : Nat) :
    (ofPattern negative pattern).negative = negative := by
  unfold ofPattern
  split <;> rfl

/-- Rounding never gives a NaN. -/
theorem isNaN_ofPattern (negative : Bool) (pattern : Nat) :
    (ofPattern negative pattern).isNaN = false := by
  unfold ofPattern
  split
  · have finite : pattern / 4503599627370496 ≠ 2047 := by omega
    simp [isNaN, finite]
  · rfl

/-! ## Floats -/

/-- A finite float has the pattern that its units are rounded to. -/
theorem patternOf_magnitude {x : Binary64} (finite : x.isFinite = true) :
    patternOf x.magnitude = x.exponent.val * 4503599627370496 + x.fraction.val := by
  obtain ⟨negative, ⟨exponent, in_exponent⟩, ⟨fraction, in_fraction⟩⟩ := x
  simp only [magnitude, significand, Nat.pow_eq]
  rcases Nat.eq_zero_or_pos exponent with rfl | normal
  · have bits : fraction.log2 - 52 = 0 := by
      rcases Nat.eq_zero_or_pos fraction with rfl | positive
      · rfl
      · have few := (Nat.log2_lt (Nat.ne_of_gt positive)).mpr
          (show fraction < 2 ^ 52 from in_fraction)
        omega
    have whole := nearest_mul Nat.one_pos fraction
    rw [Nat.mul_one] at whole
    rw [if_pos rfl, Nat.zero_sub, Nat.pow_zero, Nat.mul_one, patternOf, bits, Nat.pow_zero, whole]
  · have bits : ((2 ^ 52 + fraction) * 2 ^ (exponent - 1)).log2 = 52 + (exponent - 1) := by
      have positive := Nat.two_pow_pos (exponent - 1)
      rw [Nat.log2_eq_iff (Nat.ne_of_gt (Nat.mul_pos (by omega) positive))]
      constructor
      · rw [Nat.pow_add]
        exact Nat.mul_le_mul_right _ (Nat.le_add_right _ _)
      · rw [show 52 + (exponent - 1) + 1 = 53 + (exponent - 1) by omega, Nat.pow_add 2 53]
        exact Nat.mul_lt_mul_of_pos_right (by omega) positive
    rw [if_neg (Nat.ne_of_gt normal), patternOf, bits, Nat.add_sub_cancel_left,
      nearest_mul (Nat.two_pow_pos _)]
    omega

theorem ofPattern_parts {x : Binary64} (finite : x.isFinite = true) :
    ofPattern x.negative (x.exponent.val * 4503599627370496 + x.fraction.val) = x := by
  obtain ⟨negative, ⟨exponent, in_exponent⟩, ⟨fraction, in_fraction⟩⟩ := x
  have inner : exponent ≠ 2047 := by simpa [isFinite] using finite
  rw [ofPattern, dif_pos (by simp only; omega)]
  simp only [mk.injEq, Fin.mk.injEq, true_and]
  omega

/-- **A finite float is what its own units are rounded to.** -/
theorem round_magnitude {x : Binary64} (finite : x.isFinite = true) :
    round x.negative x.magnitude 1 = x := by
  rw [round_one, patternOf_magnitude finite, ofPattern_parts finite]

/-- More units are rounded to a float of no smaller magnitude. -/
theorem magnitude_round_mono (negative other : Bool) {units more : Nat} (le : units ≤ more) :
    (round negative units 1).magnitude ≤ (round other more 1).magnitude := by
  have patterns := patternOf_mono le
  rw [round_one, round_one, magnitude_ofPattern, magnitude_ofPattern]
  exact unitsOf_mono (by omega)

/-! ## Integers -/

theorem one_eq_pow : one = 2 ^ 1074 := by decide +kernel

theorem one_pos : 0 < one := by decide +kernel

theorem isNaN_ofInt (i : Int) : (ofInt i).isNaN = false := by
  rw [ofInt, round_one]
  exact isNaN_ofPattern _ _

theorem key_ofInt (i : Int) :
    (ofInt i).key = if i < 0 then -((ofInt i).magnitude : Int) else (ofInt i).magnitude := by
  have sign : (ofInt i).negative = decide (i < 0) := by rw [ofInt, round_one, negative_ofPattern]
  rw [key, sign]
  simp

/-- **Integers are rounded in order.** -/
theorem key_ofInt_mono {i j : Int} (le : i ≤ j) : (ofInt i).key ≤ (ofInt j).key := by
  have grows (i j : Int) (le : i.natAbs ≤ j.natAbs) : (ofInt i).magnitude ≤ (ofInt j).magnitude :=
    magnitude_round_mono _ _ (Nat.mul_le_mul_right one le)
  rw [key_ofInt, key_ofInt]
  split <;> split
  · have larger := grows j i (by omega)
    omega
  · omega
  · omega
  · have larger := grows i j (by omega)
    omega

/-- A float stands for an integer if it is finite and so many times one. -/
theorem toInt?_eq_some_iff {x : Binary64} {i : Int} :
    x.toInt? = some i ↔ x.isFinite = true ∧ x.key = i * one := by
  have positive := one_pos
  unfold toInt? key
  generalize one = unit at positive ⊢
  generalize x.magnitude = units
  cases x.isFinite with
  | false => simp
  | true =>
      by_cases divides : units % unit = 0
      · obtain ⟨count, rfl⟩ := Nat.dvd_of_mod_eq_zero divides
        have cancel (j : Int) : j * unit = i * unit ↔ j = i :=
          Int.mul_eq_mul_right_iff (by omega)
        have count_key : ((unit * count : Nat) : Int) = count * unit := by
          rw [Int.natCast_mul, Int.mul_comm]
        rw [count_key, ← Int.neg_mul, Nat.mul_div_cancel_left _ positive]
        cases x.negative <;> simp only [divides, Bool.true_and, beq_iff_eq, reduceIte,
          Bool.false_eq_true, true_and, Option.some.injEq]
        · exact (cancel count).symm
        · exact (cancel (-count)).symm
      · have unequal (j : Int) : ¬ (units : Int) = j * unit := by
          intro same
          have divisible : unit ∣ units :=
            Int.natCast_dvd_natCast.mp ⟨j, by rw [same, Int.mul_comm]⟩
          exact divides (Nat.mod_eq_zero_of_dvd divisible)
        cases x.negative <;> simp only [divides, Bool.true_and, beq_iff_eq, reduceIte, reduceCtorEq,
          Bool.false_eq_true, true_and, false_iff]
        · exact unequal i
        · intro same
          exact unequal (-i) (by rw [Int.neg_mul, ← same, Int.neg_neg])

theorem natAbs_key (x : Binary64) : x.key.natAbs = x.magnitude := by
  unfold key
  split <;> simp

/-- An integer that a float stands for is rounded to that float, but for the sign of a zero. -/
theorem key_ofInt_of_toInt? {x : Binary64} {i : Int} (stands : x.toInt? = some i) :
    (ofInt i).key = x.key := by
  obtain ⟨finite, same⟩ := toInt?_eq_some_iff.mp stands
  have units : i.natAbs * one = x.magnitude := by
    rw [← natAbs_key, same, Int.natAbs_mul, Int.natAbs_natCast]
  have magnitude : (ofInt i).magnitude = i.natAbs * one := by
    rw [ofInt, units]
    calc (round (decide (i < 0)) x.magnitude 1).magnitude
        = (round x.negative x.magnitude 1).magnitude := by
          rw [round_one, round_one, magnitude_ofPattern, magnitude_ofPattern]
      _ = x.magnitude := by rw [round_magnitude finite]
  rw [key_ofInt, magnitude, same, Int.natCast_mul]
  split
  · rw [← Int.neg_mul, show -(i.natAbs : Int) = i by omega]
  · rw [show (i.natAbs : Int) = i by omega]

/-- The integers of at most fifty-three bits, and the one after them, are floats. -/
theorem exists_magnitude (negative : Bool) {count : Nat} (small : count ≤ 9007199254740992) :
    ∃ x : Binary64, x.isFinite = true ∧ x.negative = negative ∧ x.magnitude = count * one := by
  have float (exponent fraction : Nat) (inner : exponent < 2047)
      (fits : fraction < 4503599627370496) (normal : exponent ≠ 0)
      (same : (2 ^ 52 + fraction) * 2 ^ (exponent - 1) = count * one) :
      ∃ x : Binary64, x.isFinite = true ∧ x.negative = negative ∧ x.magnitude = count * one := by
    refine ⟨⟨negative, ⟨exponent, by omega⟩, ⟨fraction, fits⟩⟩, ?_, rfl, ?_⟩
    · simp only [isFinite, bne_iff_ne]
      omega
    · simpa only [magnitude, significand, Nat.pow_eq, if_neg normal] using same
  rcases Nat.eq_zero_or_pos count with rfl | positive
  · exact ⟨zero negative, rfl, rfl, by simp [zero, magnitude, significand]⟩
  rcases Nat.lt_or_eq_of_le small with less | rfl
  · have bits : count.log2 ≤ 52 := by
      have := (Nat.log2_lt (Nat.ne_of_gt positive)).mpr (show count < 2 ^ 53 from less)
      omega
    have lower := Nat.mul_le_mul_right (2 ^ (52 - count.log2))
      (Nat.log2_self_le (Nat.ne_of_gt positive))
    have upper := Nat.mul_lt_mul_of_pos_right (@Nat.lt_log2_self count)
      (Nat.two_pow_pos (52 - count.log2))
    rw [← Nat.pow_add, show count.log2 + (52 - count.log2) = 52 by omega] at lower
    rw [← Nat.pow_add, show count.log2 + 1 + (52 - count.log2) = 53 by omega] at upper
    refine float (1023 + count.log2) (count * 2 ^ (52 - count.log2) - 2 ^ 52) (by omega) (by omega)
      (by omega) ?_
    have units : 2 ^ (52 - count.log2) * 2 ^ (1023 + count.log2 - 1) = one := by
      rw [← Nat.pow_add, one_eq_pow]
      congr 1
      omega
    rw [Nat.add_sub_cancel' lower, Nat.mul_assoc, units]
  · exact float 1076 0 (by decide) (by decide) (by decide) (by decide +kernel)

theorem eq_infinity {x : Binary64} (number : x.isNaN = false) (infinite : x.isFinite = false) :
    x = infinity x.negative := by
  obtain ⟨negative, ⟨exponent, in_exponent⟩, fraction⟩ := x
  have last : exponent = 2047 := by simpa [isFinite] using infinite
  subst last
  have whole : fraction = 0 := by
    simp only [isNaN, beq_self_eq_true, Bool.true_and, bne_eq_false_iff_eq] at number
    exact Fin.ext number
  rw [whole]
  rfl

theorem isFinite_of_magnitude {x : Binary64} (number : x.isNaN = false)
    (small : x.magnitude ≤ 9007199254740992 * one) : x.isFinite = true := by
  cases finite : x.isFinite with
  | true => rfl
  | false =>
      rw [eq_infinity number finite, magnitude_infinity] at small
      exact absurd small (by decide +kernel)

/-- A float to which a small integer is rounded stands for that integer. -/
theorem toInt?_of_key_ofInt {x : Binary64} {i : Int} (small : i.natAbs ≤ 9007199254740992)
    (number : x.isNaN = false) (same : (ofInt i).key = x.key) : x.toInt? = some i := by
  obtain ⟨y, finite, sign, units⟩ := exists_magnitude (decide (i < 0)) small
  have stands : y.toInt? = some i := by
    refine toInt?_eq_some_iff.mpr ⟨finite, ?_⟩
    rw [key, units, sign, Int.natCast_mul, ← Int.neg_mul]
    by_cases negative : i < 0
    · rw [if_pos (decide_eq_true negative), show -(i.natAbs : Int) = i by omega]
    · rw [if_neg (by simpa using negative), show (i.natAbs : Int) = i by omega]
  have key : x.key = i * one := by
    rw [← same, key_ofInt_of_toInt? stands, (toInt?_eq_some_iff.mp stands).2]
  refine toInt?_eq_some_iff.mpr ⟨isFinite_of_magnitude number ?_, key⟩
  rw [← natAbs_key, key, Int.natAbs_mul, Int.natAbs_natCast]
  exact Nat.mul_le_mul_right one small

end Scriptlet.Binary64
