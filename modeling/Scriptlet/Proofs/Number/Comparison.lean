/-
# Proofs.Number.Comparison -- how far order and equality of numbers agree

An integer and a float are equal if the float stands for that integer, but they are ordered by the
float nearest to the integer.  So the two notions part where a float is the nearest to an integer
and does not stand for it (`Value.Blurs`).  Of such a pair neither number is the smaller one and
they are not equal, and still each is at most the other.

Everywhere else numbers are ordered as one expects: of any two exactly one of the three relations
holds, and "at most" is "less or equal" and chains (`comparisons_agree`).  That is so of all pairs
of one kind, and of integers of up to fifty-three bits with any float.
-/
import Scriptlet.Evaluation.Operators
import Scriptlet.Proofs.Number.Rounding

namespace Scriptlet

set_option autoImplicit false

namespace Value

variable {v w u : Value}

/-- Integers, and floats that are not a NaN. -/
inductive IsNumber : Value → Prop where
  | integer (i : Int64) : IsNumber (.integer i)
  | float {x : Binary64} : x.isNaN = false → IsNumber (.float x)

/-- A float to which an integer is rounded, but which does not stand for it. -/
def Misses (i : Int64) (x : Binary64) : Prop :=
  (Binary64.ofInt i.toInt).equals x = true ∧ integerEqualsFloat i x = false

/-- An integer and a float, of which one misses the other. -/
def Blurs : Value → Value → Prop
  | integer i, float x | float x, integer i => Misses i x
  | _, _ => False

/-- The place of a number among the floats. -/
def key (v : Value) : Int := (v.toFloat?.map Binary64.key).getD 0

/-- How two numbers are ordered: two integers by themselves, and all others as floats. -/
def ordering : Value → Value → Ordering
  | integer i, integer j => compare i.toInt j.toInt
  | v, w => compare v.key w.key

theorem order?_of_numbers {x y : Binary64} (left : x.isNaN = false) (right : y.isNaN = false) :
    x.order? y = some (compare x.key y.key) := by
  rw [Binary64.order?, left, right, Bool.false_or, if_neg Bool.false_ne_true]

theorem key_of_toFloat? {x : Binary64} (float : v.toFloat? = some x) : v.key = x.key := by
  rw [key, float]
  rfl

@[simp] theorem key_integer (i : Int64) : (integer i).key = (Binary64.ofInt i.toInt).key :=
  key_of_toFloat? rfl

@[simp] theorem key_float (x : Binary64) : (float x).key = x.key := key_of_toFloat? rfl

/-- Any two numbers are in order. -/
theorem order_of_numbers (operator : Operator) (left : v.IsNumber) (right : w.IsNumber) :
    operator.order v w = .ok (some (v.ordering w)) := by
  cases left with
  | integer i =>
      cases right with
      | integer j => rfl
      | float number =>
          simp only [Operator.order, toFloat?, ordering, key_integer, key_float,
            order?_of_numbers (Binary64.isNaN_ofInt _) number]
  | float number =>
      cases right with
      | integer j =>
          simp only [Operator.order, toFloat?, ordering, key_integer, key_float,
            order?_of_numbers number (Binary64.isNaN_ofInt _)]
      | float other =>
          simp only [Operator.order, toFloat?, ordering, key_float, order?_of_numbers number other]

theorem misses_iff {i : Int64} {x : Binary64} (number : x.isNaN = false) :
    Misses i x ↔ (Binary64.ofInt i.toInt).key = x.key ∧ x.toInt? ≠ some i.toInt := by
  simp [Misses, Binary64.equals, Binary64.isNaN_ofInt, number, integerEqualsFloat]

theorem integerEqualsFloat_iff {i : Int64} {x : Binary64} (number : x.isNaN = false) :
    integerEqualsFloat i x = true
      ↔ (Binary64.ofInt i.toInt).key = x.key ∧ ¬ Misses i x := by
  rw [misses_iff number, integerEqualsFloat, beq_iff_eq]
  constructor
  · intro stands
    exact ⟨Binary64.key_ofInt_of_toInt? stands, fun missed => missed.2 stands⟩
  · rintro ⟨same, hit⟩
    exact Classical.byContradiction fun apart => hit ⟨same, apart⟩

/-- Numbers are equal if the order does not tell them apart, unless it is blurred. -/
theorem looselyEquals_iff (left : v.IsNumber) (right : w.IsNumber) :
    v.looselyEquals w = true ↔ v.ordering w = .eq ∧ ¬ v.Blurs w := by
  cases left with
  | integer i =>
      cases right with
      | integer j =>
          simp only [looselyEquals, ordering, Blurs, beq_iff_eq, Int.compare_eq_eq, Int64.toInt_inj,
            not_false_eq_true, and_true]
      | float number =>
          simp only [looselyEquals, ordering, key_integer, key_float, Blurs, Int.compare_eq_eq]
          exact integerEqualsFloat_iff number
  | float number =>
      cases right with
      | integer j =>
          simp only [looselyEquals, ordering, key_integer, key_float, Blurs, Int.compare_eq_eq]
          rw [integerEqualsFloat_iff number, eq_comm]
      | float other =>
          simp only [looselyEquals, ordering, key_float, Blurs, Int.compare_eq_eq, Binary64.equals,
            number, other, Bool.not_false, Bool.true_and, beq_iff_eq, not_false_eq_true, and_true]

/-! ## The comparisons -/

/-- What the five comparisons of two values yield. -/
structure Compares (v w : Value) (less equal greater atMost atLeast : Bool) : Prop where
  less : Operator.binary .lessThan v w = .ok (.boolean less)
  equal : Operator.binary .equal v w = .ok (.boolean equal)
  greater : Operator.binary .greaterThan v w = .ok (.boolean greater)
  atMost : Operator.binary .lessThanEqual v w = .ok (.boolean atMost)
  atLeast : Operator.binary .greaterThanEqual v w = .ok (.boolean atLeast)

/-- All comparisons of numbers are read off their order. -/
theorem compares_of_numbers (left : v.IsNumber) (right : w.IsNumber) :
    v.Compares w (v.ordering w).isLT (v.looselyEquals w) (v.ordering w).isGT (v.ordering w).isLE
      (v.ordering w).isGE := by
  constructor <;>
    simp only [Operator.binary, Operator.compared, order_of_numbers _ left right] <;> rfl

/-- Two numbers that are not both integers are ordered as floats. -/
theorem isLE_of_key_le (left : v.IsNumber) (right : w.IsNumber)
    (mixed : ∀ i j, v = .integer i → w ≠ .integer j) (le : v.key ≤ w.key) :
    (v.ordering w).isLE = true := by
  cases left with
  | integer i =>
      cases right with
      | integer j => exact absurd rfl (mixed i j rfl)
      | float number => simpa only [ordering, Int.isLE_compare] using le
  | float number =>
      cases right with
      | integer j => simpa only [ordering, Int.isLE_compare] using le
      | float number => simpa only [ordering, Int.isLE_compare] using le

/-- Numbers in order are in order as floats. -/
theorem key_le_of_isLE (left : v.IsNumber) (right : w.IsNumber)
    (le : (v.ordering w).isLE = true) : v.key ≤ w.key := by
  cases left with
  | integer i =>
      cases right with
      | integer j =>
          rw [key_integer, key_integer]
          exact Binary64.key_ofInt_mono (by simpa only [ordering, Int.isLE_compare] using le)
      | float number => simpa only [ordering, Int.isLE_compare] using le
  | float number =>
      cases right with
      | integer j => simpa only [ordering, Int.isLE_compare] using le
      | float number => simpa only [ordering, Int.isLE_compare] using le

/-- Two integers with a float between them are in order, if it misses neither. -/
theorem isLE_of_float_between {i j : Int64} {x : Binary64} (number : x.isNaN = false)
    (hit : ¬ Misses i x) (also : ¬ Misses j x) (above : (Binary64.ofInt i.toInt).key ≤ x.key)
    (below : x.key ≤ (Binary64.ofInt j.toInt).key) : i.toInt ≤ j.toInt := by
  apply Int.not_lt.mp
  intro less
  have round := Binary64.key_ofInt_mono (Int.le_of_lt less)
  have at_i : (Binary64.ofInt i.toInt).key = x.key :=
    Int.le_antisymm above (Int.le_trans below round)
  have at_j : (Binary64.ofInt j.toInt).key = x.key :=
    Int.le_antisymm (Int.le_trans round above) below
  have equal_i := (integerEqualsFloat_iff number).mpr ⟨at_i, hit⟩
  have equal_j := (integerEqualsFloat_iff number).mpr ⟨at_j, also⟩
  rw [integerEqualsFloat, beq_iff_eq] at equal_i equal_j
  rw [Option.some.inj (equal_i.symm.trans equal_j)] at less
  exact Int.lt_irrefl _ less

/-- The order chains, unless it goes from an integer to an integer by way of a blurred pair. -/
theorem isLE_trans (left : v.IsNumber) (middle : w.IsNumber) (right : u.IsNumber)
    (clear : ∀ i j, v = .integer i → u = .integer j → ¬ v.Blurs w ∧ ¬ w.Blurs u)
    (first : (v.ordering w).isLE = true) (second : (w.ordering u).isLE = true) :
    (v.ordering u).isLE = true := by
  have above := key_le_of_isLE left middle first
  have below := key_le_of_isLE middle right second
  have among_floats := isLE_of_key_le left right
  cases left with
  | float number => exact among_floats nofun (Int.le_trans above below)
  | integer i =>
      cases right with
      | float number => exact among_floats nofun (Int.le_trans above below)
      | integer j =>
          obtain ⟨hit, also⟩ := clear i j rfl rfl
          simp only [ordering, Int.isLE_compare]
          cases middle with
          | integer k =>
              simp only [ordering, Int.isLE_compare] at first second
              exact Int.le_trans first second
          | float number =>
              rw [key_integer, key_float] at above below
              exact isLE_of_float_between number hit also above below

/-- What a blurred pair looks like to the comparisons. -/
theorem compares_of_blurs (left : v.IsNumber) (right : w.IsNumber) (blurs : v.Blurs w) :
    v.Compares w false false false true true := by
  have same : v.ordering w = .eq := by
    cases left with
    | integer i =>
        cases right with
        | integer j => cases blurs
        | float number =>
            simp only [ordering, key_integer, key_float, Int.compare_eq_eq]
            exact ((misses_iff number).mp blurs).1
    | float number =>
        cases right with
        | integer j =>
            simp only [ordering, key_integer, key_float, Int.compare_eq_eq]
            exact ((misses_iff number).mp blurs).1.symm
        | float other => cases blurs
  have unequal : v.looselyEquals w = false := by
    rw [Bool.eq_false_iff, Ne, looselyEquals_iff left right]
    exact fun equal => equal.2 blurs
  have compares := compares_of_numbers left right
  rwa [same, unequal] at compares

/-- What any other pair looks like: one relation holds of it, and "at most" is "less or equal". -/
theorem compares_of_clear (left : v.IsNumber) (right : w.IsNumber) (clear : ¬ v.Blurs w) :
    ∃ less equal greater,
      v.Compares w less equal greater (less || equal) (greater || equal)
        ∧ [less, equal, greater].count true = 1 := by
  have equal : v.looselyEquals w = (v.ordering w == .eq) := by
    rw [Bool.eq_iff_iff, looselyEquals_iff left right, beq_iff_eq]
    exact and_iff_left clear
  have compares := compares_of_numbers left right
  rw [equal] at compares
  generalize v.ordering w = order at compares
  cases order with
  | lt => exact ⟨true, false, false, compares, rfl⟩
  | eq => exact ⟨false, true, false, compares, rfl⟩
  | gt => exact ⟨false, false, true, compares, rfl⟩

/-- A small integer is missed by no float. -/
theorem not_blurs_of_small {i : Int64} {x : Binary64} (number : x.isNaN = false)
    (small : i.toInt.natAbs ≤ 9007199254740992) : ¬ (integer i).Blurs (float x) := by
  intro missed
  obtain ⟨same, apart⟩ := (misses_iff number).mp missed
  exact apart (Binary64.toInt?_of_key_ofInt small number same)

/-- **Order and equality of numbers agree, except where a float misses an integer.**  Of any other
two numbers exactly one is less than, equal to or greater than the other, and "at most" and "at
least" add equality to "less" and "greater"; of the exceptions nothing of the former holds and
both of the latter do.  "At most" chains across any three numbers, unless an integer is compared
with an integer by way of an exception.  And there are no exceptions of up to fifty-three bits. -/
theorem comparisons_agree (left : v.IsNumber) (middle : w.IsNumber) (right : u.IsNumber) :
    (¬ v.Blurs w → ∃ less equal greater,
      v.Compares w less equal greater (less || equal) (greater || equal)
        ∧ [less, equal, greater].count true = 1)
    ∧ (v.Blurs w → v.Compares w false false false true true)
    ∧ ((∀ i j, v = .integer i → u = .integer j → ¬ v.Blurs w ∧ ¬ w.Blurs u) →
      Operator.binary .lessThanEqual v w = .ok (.boolean true) →
      Operator.binary .lessThanEqual w u = .ok (.boolean true) →
      Operator.binary .lessThanEqual v u = .ok (.boolean true))
    ∧ ∀ i x, v = .integer i → w = .float x → i.toInt.natAbs ≤ 9007199254740992 → ¬ v.Blurs w := by
  refine ⟨compares_of_clear left middle, compares_of_blurs left middle, ?_, ?_⟩
  · intro clear first second
    rw [(compares_of_numbers left middle).atMost] at first
    rw [(compares_of_numbers middle right).atMost] at second
    rw [(compares_of_numbers left right).atMost]
    have above : (v.ordering w).isLE = true := by simpa using first
    have below : (w.ordering u).isLE = true := by simpa using second
    rw [isLE_trans left middle right clear above below]
  · rintro i x rfl rfl small
    cases middle with
    | float number => exact not_blurs_of_small number small

/-- Two integers that no float stands for, and between them a float that is the nearest to
neither. -/
theorem comparisons_agree_between :
    let v : Value := .integer 9007199254740993
    let w : Value := .float (.ofInt 9007199254740994)
    let u : Value := .integer 9007199254740995
    (∃ less equal greater, v.Compares w less equal greater (less || equal) (greater || equal)
      ∧ [less, equal, greater].count true = 1)
    ∧ Operator.binary .lessThanEqual v u = .ok (.boolean true) := by
  intro v w u
  have left : v.IsNumber := .integer _
  have middle : w.IsNumber := .float (Binary64.isNaN_ofInt _)
  have right : u.IsNumber := .integer _
  have clear : ¬ v.Blurs w := fun missed => absurd missed.1 (by decide +kernel)
  have also : ¬ w.Blurs u := fun missed => absurd missed.1 (by decide +kernel)
  have above : (v.ordering w).isLE = true := by decide +kernel
  have below : (w.ordering u).isLE = true := by decide +kernel
  have first := (compares_of_numbers left middle).atMost
  have second := (compares_of_numbers middle right).atMost
  rw [above] at first
  rw [below] at second
  obtain ⟨one, -, chain, -⟩ := comparisons_agree left middle right
  exact ⟨one clear, chain (fun _ _ _ _ => ⟨clear, also⟩) first second⟩

/-- An integer, the float before it, and the integer that the float stands for: of the first two
neither is less or greater and they are not equal, each is at most the next one, and the first is
not at most the last. -/
theorem order_of_missed_integer :
    let v : Value := .integer 9007199254740993
    let w : Value := .float (.ofInt 9007199254740992)
    let u : Value := .integer 9007199254740992
    v.IsNumber ∧ w.IsNumber ∧ u.IsNumber
    ∧ v.Compares w false false false true true
    ∧ Operator.binary .lessThanEqual w u = .ok (.boolean true)
    ∧ Operator.binary .lessThanEqual v u = .ok (.boolean false) := by
  intro v w u
  have left : v.IsNumber := .integer _
  have middle : w.IsNumber := .float (Binary64.isNaN_ofInt _)
  have right : u.IsNumber := .integer _
  have missed : v.Blurs w := ⟨by decide +kernel, by decide +kernel⟩
  have first := (compares_of_numbers middle right).atMost
  have second := (compares_of_numbers left right).atMost
  rw [show (w.ordering u).isLE = true by decide +kernel] at first
  rw [show (v.ordering u).isLE = false by decide +kernel] at second
  exact ⟨left, middle, right, compares_of_blurs left middle missed, first, second⟩

end Value

end Scriptlet
