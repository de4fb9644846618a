/-
# Proofs.Overflow -- arithmetic at the ends of the integers

Arithmetic on two integers yields the exact result where the language has it, and a float where it
does not (`IsExact`, `IsQuotient`): nothing wraps around, and nothing is moved to the nearest
integer.  A quotient is an integer if the divisor goes into the dividend that many times; so the
least integer divided by minus one is a float, as the product of the two is.

On other operands arithmetic fails in two ways only: the operands are not of kinds that it takes,
or a number is divided by one of the three zeros.
-/
import Scriptlet.Evaluation.Operators
import Scriptlet.Proofs.Number.Rounding

namespace Scriptlet

set_option autoImplicit false

/-! ## Numbers -/

theorem Integer.ofExact?_eq_some_iff {i : Int} {word : Int64} :
    ofExact? i = some word ↔ word.toInt = i := by
  refine ⟨toInt_of_ofExact?, ?_⟩
  rintro rfl
  exact ofExact?_toInt word

theorem Integer.ofExact?_eq_none {i : Int} : ofExact? i = none ↔ ¬ (least ≤ i ∧ i ≤ greatest) := by
  simp [ofExact?]

/-- A float without units is one of the two zeros. -/
theorem Binary64.isZero_iff {x : Binary64} : x.isZero = true ↔ x = zero false ∨ x = zero true := by
  constructor
  · obtain ⟨negative, exponent, fraction⟩ := x
    intro none
    have digits : significand ⟨negative, exponent, fraction⟩ = 0 := by
      rw [isZero, beq_iff_eq, magnitude] at none
      exact (Nat.mul_eq_zero.mp none).resolve_right (Nat.ne_of_gt (Nat.pow_pos Nat.two_pos))
    have places : exponent.val = 0 ∧ fraction.val = 0 := by
      simp only [significand, Nat.pow_eq] at digits
      split at digits <;> omega
    obtain rfl : exponent = 0 := Fin.ext places.1
    obtain rfl : fraction = 0 := Fin.ext places.2
    cases negative
    · exact .inl rfl
    · exact .inr rfl
  · rintro (rfl | rfl) <;> rfl

/-- No integer but zero is so near to zero that its float is. -/
theorem Binary64.isZero_ofInt {i : Int} : (ofInt i).isZero = true ↔ i = 0 := by
  constructor
  · intro none
    refine Decidable.byContradiction fun nonzero => ?_
    have one_le : (ofInt 1).magnitude ≤ (ofInt i).magnitude :=
      magnitude_round_mono _ _ (Nat.mul_le_mul_right one (by omega))
    have positive : 0 < (ofInt 1).magnitude := by decide +kernel
    exact Nat.ne_of_gt (Nat.lt_of_lt_of_le positive one_le) (beq_iff_eq.mp none)
  · rintro rfl
    decide +kernel

namespace Value

/-- Numbers of both kinds, infinities and NaNs among them. -/
def IsNumeric : Value → Prop
  | integer _ | float _ => True
  | _ => False

/-- The zeros: an integer and two floats. -/
def IsZero : Value → Prop
  | integer i => i = 0
  | float x => x = .zero false ∨ x = .zero true
  | _ => False

/-- Two texts, or two lists. -/
def Joins : Value → Value → Prop
  | text _, text _ | list _, list _ => True
  | _, _ => False

theorem isNumeric_iff {v : Value} : v.IsNumeric ↔ ∃ x, v.toFloat? = some x := by
  cases v <;> simp [IsNumeric, toFloat?]

theorem not_isNumeric {v w : Value}
    (others : ∀ x y, v.toFloat? = some x → w.toFloat? = some y → False) :
    ¬ (v.IsNumeric ∧ w.IsNumeric) := by
  rintro ⟨left, right⟩
  obtain ⟨x, left⟩ := isNumeric_iff.mp left
  obtain ⟨y, right⟩ := isNumeric_iff.mp right
  exact others x y left right

theorem IsZero.isNumeric {v : Value} (zero : v.IsZero) : v.IsNumeric := by
  cases v with
  | integer | float => trivial
  | _ => cases zero

/-- A number is zero if its float is. -/
theorem isZero_of_toFloat? {v : Value} {x : Binary64} (float : v.toFloat? = some x) :
    x.isZero = true ↔ v.IsZero := by
  cases v with
  | integer i =>
      obtain rfl := Option.some.inj float
      rw [Binary64.isZero_ofInt, IsZero, ← Int64.toInt_inj, Int64.toInt_zero]
  | float y =>
      obtain rfl := Option.some.inj float
      exact Binary64.isZero_iff
  | _ => cases float

end Value

namespace Operator

variable {v w : Value} {a b word : Int64} {error : RuntimeError}

/-! ## What is exact -/

/-- An outcome that is an integer if the language has the result, and this float otherwise. -/
structure IsExact (result : Int) (approximation : Binary64)
    (outcome : Except RuntimeError Value) : Prop where
  integer : ∀ word : Int64, outcome = .ok (.integer word) ↔ word.toInt = result
  float : ∀ x, outcome = .ok (.float x)
    ↔ ¬ (Integer.least ≤ result ∧ result ≤ Integer.greatest) ∧ x = approximation

/-- An outcome of a division: an error for the divisor zero, the integer that is the quotient if
there is one, and this float otherwise. -/
structure IsQuotient (a b : Int64) (approximation : Binary64)
    (outcome : Except RuntimeError Value) : Prop where
  error : ∀ error, outcome = .error error ↔ b = 0 ∧ error = .divisionByZero
  integer : ∀ q : Int64, outcome = .ok (.integer q) ↔ b ≠ 0 ∧ a.toInt = q.toInt * b.toInt
  float : ∀ x, outcome = .ok (.float x)
    ↔ (b ≠ 0 ∧ ¬ ∃ q : Int64, a.toInt = q.toInt * b.toInt) ∧ x = approximation

/-- The integer is the exact result of the operator. -/
def Yields (operator : Operator) (a b result : Int) : Prop :=
  match operator with
  | .plus => result = a + b
  | .minus => result = a - b
  | .times => result = a * b
  | .divide => b ≠ 0 ∧ a = result * b
  | _ => False

theorem isExact_exactOr (result : Int) (approximation : Binary64) :
    IsExact result approximation (.ok (exactOr result approximation)) := by
  unfold exactOr
  split
  · next fits =>
    have inside : Integer.least ≤ result ∧ result ≤ Integer.greatest := by
      refine Decidable.byContradiction fun outside => ?_
      rw [Integer.ofExact?_eq_none.mpr outside] at fits
      cases fits
    refine ⟨fun word => ?_, fun x => ?_⟩
    · rw [← Integer.ofExact?_eq_some_iff, fits, Except.ok.injEq, Value.integer.injEq,
        Option.some.injEq]
    · exact iff_of_false (fun same => by cases same) fun outside => outside.1 inside
  · next large =>
    refine ⟨fun word => ?_, fun x => ?_⟩
    · refine iff_of_false (fun same => by cases same) fun same => ?_
      rw [Integer.ofExact?_eq_some_iff.mpr same] at large
      cases large
    · rw [Except.ok.injEq, Value.float.injEq, eq_comm]
      exact (and_iff_right (Integer.ofExact?_eq_none.mp large)).symm

/-- A division of integers is exact, where the quotient is an integer, or else it is a float. -/
theorem isQuotient_quotient (a b : Int64) :
    IsQuotient a b ((Binary64.ofInt a.toInt).div (.ofInt b.toInt))
      (quotient (.integer a) (.integer b)) := by
  have zero : b.toInt = 0 ↔ b = 0 := by rw [← Int64.toInt_inj, Int64.toInt_zero]
  simp only [quotient]
  split
  · next none =>
    rw [zero] at none
    exact ⟨by simp [none, eq_comm], by simp [none], by simp [none]⟩
  · next some =>
    have nonzero : b ≠ 0 := fun none => some (zero.mpr none)
    split
    · next whole =>
      have divides := Integer.dvd_of_remainder? whole
      have multiple (q : Int64) : q.toInt = a.toInt.tdiv b.toInt ↔ a.toInt = q.toInt * b.toInt :=
        ⟨fun same => by rw [same, Int.tdiv_mul_cancel divides],
          fun product => by rw [product, Int.mul_tdiv_cancel _ some]⟩
      obtain ⟨integers, floats⟩ := isExact_exactOr (a.toInt.tdiv b.toInt)
        ((Binary64.ofInt a.toInt).div (.ofInt b.toInt))
      have outside :
          ¬ (Integer.least ≤ a.toInt.tdiv b.toInt ∧ a.toInt.tdiv b.toInt ≤ Integer.greatest)
            ↔ ¬ ∃ q : Int64, a.toInt = q.toInt * b.toInt := by
        simp only [← multiple, ← Integer.ofExact?_eq_some_iff, ← Integer.ofExact?_eq_none,
          Option.eq_none_iff_forall_ne_some, not_exists, Ne]
      exact ⟨by simp [nonzero], fun q => by rw [integers, multiple, and_iff_right nonzero],
        fun x => by rw [floats, outside, and_iff_right nonzero]⟩
    · next part =>
      have apart : ¬ ∃ q : Int64, a.toInt = q.toInt * b.toInt := by
        rintro ⟨q, product⟩
        refine part ?_
        rw [product]
        exact Integer.remainder?_mul some (Integer.toInt_le_greatest q)
      refine ⟨by simp [nonzero], fun q => ?_, fun x => ?_⟩
      · exact iff_of_false (fun same => by cases same) fun exact => apart ⟨q, exact.2⟩
      · rw [Except.ok.injEq, Value.float.injEq, eq_comm]
        exact (and_iff_right ⟨nonzero, apart⟩).symm

/-! ## Operands of all kinds -/

section

variable {operator : Operator} {onIntegers : Int → Int → Int}
  {onFloats : Binary64 → Binary64 → Binary64}

theorem arithmetic_eq_error_iff : operator.arithmetic onIntegers onFloats v w = .error error
    ↔ ¬ (v.IsNumeric ∧ w.IsNumeric) ∧ error = operator.mismatch v w := by
  unfold arithmetic
  split
  · simp [Value.IsNumeric]
  · split
    · next left right =>
      have numbers := And.intro (Value.isNumeric_iff.mpr ⟨_, left⟩)
        (Value.isNumeric_iff.mpr ⟨_, right⟩)
      exact iff_of_false (fun same => by cases same) fun others => others.1 numbers
    · next others =>
      rw [Except.error.injEq, eq_comm]
      exact (and_iff_right (Value.not_isNumeric others)).symm

/-- An integer is a result of integers, and exact. -/
theorem integers_of_arithmetic
    (yields : operator.arithmetic onIntegers onFloats v w = .ok (.integer word)) :
    ∃ a b : Int64, v = .integer a ∧ w = .integer b ∧ word.toInt = onIntegers a.toInt b.toInt := by
  unfold arithmetic at yields
  split at yields
  · next a b => exact ⟨a, b, rfl, rfl, ((isExact_exactOr _ _).integer word).mp yields⟩
  · split at yields <;> cases yields

end

/-- A division takes two integers as such, other numbers as floats, and nothing else. -/
theorem quotient_cases (v w : Value) :
    (∃ a b, v = .integer a ∧ w = .integer b)
    ∨ (∃ x y, v.toFloat? = some x ∧ w.toFloat? = some y
        ∧ quotient v w = if y.isZero then .error .divisionByZero else .ok (.float (x.div y)))
    ∨ ¬ (v.IsNumeric ∧ w.IsNumeric) ∧ quotient v w = .error (mismatch .divide v w) := by
  unfold quotient
  split
  · exact .inl ⟨_, _, rfl, rfl⟩
  · split
    · next left right => exact .inr (.inl ⟨_, _, left, right, rfl⟩)
    · next others => exact .inr (.inr ⟨Value.not_isNumeric others, rfl⟩)

theorem quotient_eq_error_iff : quotient v w = .error error
    ↔ ¬ (v.IsNumeric ∧ w.IsNumeric) ∧ error = mismatch .divide v w
      ∨ (v.IsNumeric ∧ w.IsZero) ∧ error = .divisionByZero := by
  rcases quotient_cases v w with ⟨a, b, rfl, rfl⟩ | ⟨x, y, left, right, divided⟩ | ⟨apart, failed⟩
  · rw [(isQuotient_quotient a b).error]
    simp [Value.IsNumeric, Value.IsZero]
  · have numbers := And.intro (Value.isNumeric_iff.mpr ⟨x, left⟩)
      (Value.isNumeric_iff.mpr ⟨y, right⟩)
    have zero := Value.isZero_of_toFloat? right
    rw [divided]
    split
    · next none => simp [numbers, zero.mp none, eq_comm]
    · next some => simp [numbers, mt zero.mpr some]
  · have zero : ¬ (v.IsNumeric ∧ w.IsZero) := fun ⟨left, right⟩ => apart ⟨left, right.isNumeric⟩
    rw [failed]
    simp [apart, zero, eq_comm]

theorem integers_of_quotient (yields : quotient v w = .ok (.integer word)) :
    ∃ a b : Int64, v = .integer a ∧ w = .integer b
      ∧ b.toInt ≠ 0 ∧ a.toInt = word.toInt * b.toInt := by
  rcases quotient_cases v w with ⟨a, b, rfl, rfl⟩ | ⟨x, y, -, -, divided⟩ | ⟨-, failed⟩
  · obtain ⟨nonzero, product⟩ := ((isQuotient_quotient a b).integer word).mp yields
    rw [Ne, ← Int64.toInt_inj] at nonzero
    exact ⟨a, b, rfl, rfl, nonzero, product⟩
  · rw [divided] at yields
    split at yields <;> cases yields
  · rw [failed] at yields
    cases yields

/-! ## The operators -/

/-- What an operator of arithmetic takes: numbers, and the sum also texts and lists. -/
def Takes (operator : Operator) (v w : Value) : Prop :=
  v.IsNumeric ∧ w.IsNumeric ∨ operator = .plus ∧ v.Joins w

/-- Arithmetic fails on operands of kinds that it does not take, and on a zero as the divisor. -/
theorem binary_eq_error_iff {operator : Operator}
    (arithmetic : operator ∈ [plus, minus, times, divide]) :
    operator.binary v w = .error error
      ↔ ¬ operator.Takes v w ∧ error = operator.mismatch v w
        ∨ operator = .divide ∧ (v.IsNumeric ∧ w.IsZero) ∧ error = .divisionByZero := by
  simp only [List.mem_cons, List.not_mem_nil, or_false] at arithmetic
  obtain rfl | rfl | rfl | rfl := arithmetic
  · show add v w = _ ↔ _
    unfold add
    split
    · simp [Takes, Value.Joins]
    · simp [Takes, Value.Joins]
    · next texts lists =>
      have apart : ¬ v.Joins w := by
        unfold Value.Joins
        split
        · exact (texts _ _ rfl rfl).elim
        · exact (lists _ _ rfl rfl).elim
        · exact id
      simp [Takes, apart, arithmetic_eq_error_iff]
  · show minus.arithmetic _ _ v w = _ ↔ _
    simp [Takes, arithmetic_eq_error_iff]
  · show times.arithmetic _ _ v w = _ ↔ _
    simp [Takes, arithmetic_eq_error_iff]
  · show quotient v w = _ ↔ _
    simp [Takes, quotient_eq_error_iff]

/-- An integer that arithmetic yields is the exact result, and its operands are integers. -/
theorem yields_of_binary {operator : Operator}
    (arithmetic : operator ∈ [plus, minus, times, divide])
    (yields : operator.binary v w = .ok (.integer word)) :
    ∃ a b : Int64, v = .integer a ∧ w = .integer b
      ∧ operator.Yields a.toInt b.toInt word.toInt := by
  simp only [List.mem_cons, List.not_mem_nil, or_false] at arithmetic
  obtain rfl | rfl | rfl | rfl := arithmetic
  · change add v w = _ at yields
    unfold add at yields
    split at yields
    · cases yields
    · cases yields
    · exact integers_of_arithmetic yields
  · exact integers_of_arithmetic yields
  · exact integers_of_arithmetic yields
  · exact integers_of_quotient yields

theorem negate_eq_error_iff : unary .negate v = .error error
    ↔ ¬ v.IsNumeric ∧ error = .type (.negation v.kind) := by
  cases v <;> simp [unary, Value.IsNumeric, eq_comm]

theorem integer_of_negate (yields : unary .negate v = .ok (.integer word)) :
    ∃ a : Int64, v = .integer a ∧ word.toInt = -a.toInt := by
  cases v with
  | integer a => exact ⟨a, rfl, ((isExact_exactOr _ _).integer word).mp yields⟩
  | _ => cases yields

/-- **Arithmetic never leaves the integers unnoticed.**  Sums, differences, products and negations
of integers are exact integers where the language has them, and floats otherwise.  A quotient is an
integer if there is an integer of the language that is one, an error if the divisor is zero, and a
float otherwise.  Numbers of all kinds can be divided by all numbers but the three zeros.  And
whatever the operands are, an integer is yielded for integers only and is the exact result; and
operands that an operator does not take are an error, which reports their kinds. -/
theorem arithmetic_exact_or_float (a b : Int64) (v w : Value) :
    let x := Binary64.ofInt a.toInt
    let y := Binary64.ofInt b.toInt
    (IsExact (a.toInt + b.toInt) (x.add y) (binary .plus (.integer a) (.integer b))
      ∧ IsExact (a.toInt - b.toInt) (x.sub y) (binary .minus (.integer a) (.integer b))
      ∧ IsExact (a.toInt * b.toInt) (x.mul y) (binary .times (.integer a) (.integer b))
      ∧ IsExact (-a.toInt) x.neg (unary .negate (.integer a))
      ∧ IsQuotient a b (x.div y) (binary .divide (.integer a) (.integer b)))
    ∧ (v.IsNumeric → w.IsNumeric → ∀ error,
        binary .divide v w = .error error ↔ w.IsZero ∧ error = .divisionByZero)
    ∧ (∀ operator ∈ [plus, minus, times, divide],
        (∀ error, operator.binary v w = .error error
          ↔ ¬ operator.Takes v w ∧ error = operator.mismatch v w
            ∨ operator = .divide ∧ (v.IsNumeric ∧ w.IsZero) ∧ error = .divisionByZero)
        ∧ ∀ word, operator.binary v w = .ok (.integer word) →
          ∃ a b : Int64, v = .integer a ∧ w = .integer b
            ∧ operator.Yields a.toInt b.toInt word.toInt)
    ∧ (∀ error, unary .negate v = .error error
        ↔ ¬ v.IsNumeric ∧ error = .type (.negation v.kind))
    ∧ ∀ word, unary .negate v = .ok (.integer word) →
        ∃ a : Int64, v = .integer a ∧ word.toInt = -a.toInt := by
  intro x y
  refine ⟨⟨isExact_exactOr _ _, isExact_exactOr _ _, isExact_exactOr _ _, isExact_exactOr _ _,
    isQuotient_quotient a b⟩, fun left right error => ?_, fun operator arithmetic =>
    ⟨fun _ => binary_eq_error_iff arithmetic, fun _ => yields_of_binary arithmetic⟩,
    fun _ => negate_eq_error_iff, fun _ => integer_of_negate⟩
  show quotient v w = _ ↔ _
  simp [quotient_eq_error_iff, left, right]

/-- The least integer, divided by minus one or negated, is a float; a NaN cannot be divided by the
negative zero, nor can a text. -/
theorem arithmetic_exact_or_float_least :
    let least : Int64 := Int64.minValue
    let nan : Value := .float .nan
    let zero : Value := .float (.zero true)
    binary .divide (.integer least) (.integer (-1))
        = .ok (.float ((Binary64.ofInt least.toInt).div (.ofInt (-1))))
    ∧ unary .negate (.integer least) = .ok (.float (Binary64.ofInt least.toInt).neg)
    ∧ (nan.IsNumeric ∧ zero.IsNumeric ∧ binary .divide nan zero = .error .divisionByZero)
    ∧ Operator.divide ∈ [plus, minus, times, divide]
    ∧ binary .divide (.text "1") zero = .error (.type (.operands .divide .text .float)) := by
  intro least nan zero
  have numeric : nan.IsNumeric ∧ zero.IsNumeric := ⟨trivial, trivial⟩
  have arithmetic : Operator.divide ∈ [plus, minus, times, divide] := by decide
  have value : least.toInt = -9223372036854775808 := by decide
  have minus_one : (-1 : Int64).toInt = -1 := by decide
  obtain ⟨⟨-, -, -, negated, divided⟩, fails, -⟩ := arithmetic_exact_or_float least (-1) nan zero
  obtain ⟨-, -, others, -⟩ := arithmetic_exact_or_float least (-1) (.text "1") zero
  refine ⟨(divided.float _).mpr ⟨⟨by decide, ?_⟩, by rw [minus_one]⟩,
    (negated.float _).mpr ⟨?_, rfl⟩,
    ⟨numeric.1, numeric.2, (fails numeric.1 numeric.2 _).mpr ⟨.inr rfl, rfl⟩⟩, arithmetic,
    ((others _ arithmetic).1 _).mpr (.inl ⟨?_, rfl⟩)⟩
  · rintro ⟨q, product⟩
    have bound := Int64.toInt_lt q
    rw [value, minus_one] at product
    omega
  · rw [value, Integer.least, Integer.greatest]
    omega
  · rintro (⟨text, -⟩ | ⟨divide, -⟩)
    · exact text
    · cases divide

end Operator

end Scriptlet
