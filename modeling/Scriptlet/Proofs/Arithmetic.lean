/-
# Proofs.Arithmetic -- integer arithmetic from the text to the value

A formula has a value over the rational numbers, and so has each of its parts.  If these values are
integers of the language, and nothing is divided by zero, then the evaluator never leaves the
integers: an operation of which the result is an integer gives that integer, and a division is no
exception (`Operation.binary_exact`).  So the tree of the formula evaluates to the value that the
formula has (`Formula.evaluates`), and running a text that spells the formula gives that value and
does nothing else (`runs_formula`).
-/
import Mathlib.Algebra.Field.Rat
import Mathlib.Data.Int.Cast.Lemmas
import Scriptlet.Proofs.Constants
import Scriptlet.Proofs.Formulas

namespace Scriptlet

set_option autoImplicit false

/-! ## Values over the rational numbers -/

/-- The operation on rational numbers. -/
def Operation.apply : Operation → ℚ → ℚ → ℚ
  | sum, left, right => left + right
  | difference, left, right => left - right
  | product, left, right => left * right
  | quotient, left, right => left / right

namespace Formula

/-- The value over the rational numbers. -/
def value : Formula → ℚ
  | numeral n => n.value
  | parens inner => inner.value
  | negative operand => -operand.value
  | binary operation left right => operation.apply left.value right.value

/-- The value is an integer of the language. -/
def IsInteger (formula : Formula) : Prop :=
  formula.value.den = 1 ∧ Integer.least ≤ formula.value.num
    ∧ formula.value.num ≤ Integer.greatest

/-- Nothing is divided by zero. -/
def Divides : Formula → Prop
  | binary .quotient _ right => right.value ≠ 0
  | _ => True

/-- A formula all parts of which are integers, and that can be evaluated. -/
structure Exact (formula : Formula) : Prop where
  integers : ∀ part ∈ formula.parts, part.IsInteger
  divides : ∀ part ∈ formula.parts, part.Divides

instance : DecidablePred IsInteger := fun formula =>
  inferInstanceAs (Decidable (formula.value.den = 1 ∧ _ ∧ _))

instance : DecidablePred Divides := fun formula =>
  match formula with
  | binary .quotient _ right => inferInstanceAs (Decidable (right.value ≠ 0))
  | binary .sum .. | binary .difference .. | binary .product .. | numeral _ | parens _
  | negative _ => inferInstanceAs (Decidable True)

end Formula

/-! ## Evaluating -/

namespace Operation

variable {operation : Operation} {a b c : Int64}

theorem exactOr_toInt {result : Int} (same : c.toInt = result) (approximation : Binary64) :
    Operator.exactOr result approximation = .integer c := by
  rw [← same]
  simp only [Operator.exactOr, Integer.ofExact?_toInt]

theorem arithmetic_exact (operator : Operator) {onIntegers : Int → Int → Int}
    {onFloats : Binary64 → Binary64 → Binary64} (same : c.toInt = onIntegers a.toInt b.toInt) :
    operator.arithmetic onIntegers onFloats (.integer a) (.integer b) = .ok (.integer c) :=
  congrArg Except.ok (exactOr_toInt same _)

/-- An operation on integers of which the result is an integer gives that integer. -/
theorem binary_exact (exact : (c.toInt : ℚ) = operation.apply a.toInt b.toInt)
    (divides : operation = .quotient → (b.toInt : ℚ) ≠ 0) :
    operation.operator.binary (.integer a) (.integer b) = .ok (.integer c) := by
  cases operation with
  | sum =>
      rw [apply] at exact
      exact arithmetic_exact .plus (by exact_mod_cast exact)
  | difference =>
      rw [apply] at exact
      exact arithmetic_exact .minus (by exact_mod_cast exact)
  | product =>
      rw [apply] at exact
      exact arithmetic_exact .times (by exact_mod_cast exact)
  | quotient =>
      have nonzero := divides rfl
      have product : a.toInt = c.toInt * b.toInt := by
        rw [apply, eq_div_iff nonzero] at exact
        exact_mod_cast exact.symm
      have divisor : b.toInt ≠ 0 := by exact_mod_cast nonzero
      have whole : Integer.remainder? a.toInt b.toInt = some 0 := by
        rw [product]
        exact Integer.remainder?_mul divisor (Integer.toInt_le_greatest c)
      have same : c.toInt = a.toInt.tdiv b.toInt := by
        rw [product, Int.mul_tdiv_cancel _ divisor]
      show Operator.quotient (.integer a) (.integer b) = _
      simp only [Operator.quotient, if_neg divisor, if_pos whole]
      exact congrArg Except.ok (exactOr_toInt same _)

end Operation

namespace Formula

open Evaluation

variable {formula : Formula}

theorem IsInteger.word (integer : formula.IsInteger) :
    ∃ word : Int64, (word.toInt : ℚ) = formula.value := by
  obtain ⟨whole, low, high⟩ := integer
  have fits : Integer.ofExact? formula.value.num = some (Int64.ofInt formula.value.num) :=
    if_pos ⟨low, high⟩
  refine ⟨Int64.ofInt formula.value.num, ?_⟩
  rw [Integer.toInt_of_ofExact? fits]
  exact Rat.coe_int_num_of_den_eq_one whole

/-- **Exact formulas have their values**: by induction on the formula, its tree evaluates to the
integer that is its value over the rationals. -/
theorem evaluates (integers : ∀ part ∈ formula.parts, part.IsInteger)
    (divides : ∀ part ∈ formula.parts, part.Divides) {word : Int64}
    (exact : (word.toInt : ℚ) = formula.value) : Evaluates formula.node (.integer word) := by
  induction formula generalizing word with
  | numeral n =>
      have same : word = n.word := by
        rw [value] at exact
        rw [← Int64.toInt_inj, n.toInt_word]
        exact_mod_cast exact
      rw [same]
      exact evaluates_of_step 0 fun _ _ _ _ => rfl
  | parens inner ih =>
      simp only [parts, List.forall_mem_cons] at integers divides
      exact ih integers.2 divides.2 exact
  | negative operand ih =>
      simp only [parts, List.forall_mem_cons] at integers divides
      obtain ⟨inner, inside⟩ := (integers.2 operand operand.mem_parts_self).word
      have same : word.toInt = -inner.toInt := by
        rw [value, ← inside] at exact
        exact_mod_cast exact
      exact evaluates_unary (ih integers.2 divides.2 inside)
        (congrArg Except.ok (Operation.exactOr_toInt same _))
  | binary operation left right first second =>
      simp only [parts, List.forall_mem_cons, List.forall_mem_append] at integers divides
      obtain ⟨-, left_integers, right_integers⟩ := integers
      obtain ⟨here, left_divides, right_divides⟩ := divides
      obtain ⟨a, before⟩ := (left_integers left left.mem_parts_self).word
      obtain ⟨b, behind⟩ := (right_integers right right.mem_parts_self).word
      rw [value, ← before, ← behind] at exact
      refine evaluates_binary (first left_integers left_divides before)
        (second right_integers right_divides behind) (Operation.binary_exact exact ?_)
      rintro rfl
      rw [behind]
      exact here

end Formula

/-! ## Running -/

namespace Session

open Evaluation

/-- **Integer arithmetic is exact, from the text to the value.**  If a text spells a well-written
formula of which all parts have integers of the language as their values over the rationals, and in
which nothing is divided by zero, then running the text gives the value of the formula, prints
nothing and binds nothing. -/
theorem runs_formula {formula : Formula} {text : String} (written : formula.WellWritten)
    (exact : formula.Exact) (spells : formula.Spells text) (limits : Limits)
    (environment : Environment) :
    ∃ word : Int64, (word.toInt : ℚ) = formula.value ∧ Runs limits text environment
      ⟨.finished (.value (.integer word)), "", environment⟩ := by
  obtain ⟨word, same⟩ := (exact.integers formula formula.mem_parts_self).word
  obtain ⟨rounds, evaluated⟩ := Formula.evaluates exact.integers exact.divides same
  refine ⟨word, same, rounds + 1, ?_⟩
  have ended : evaluate limits (rounds + 1) (.program [formula.node]) (.start environment)
      = .done (.value (.integer word)) (.start environment) :=
    bind_done (evaluated limits rounds _ (Nat.le_refl rounds))
  rw [run_of_read (read_formula written spells), ended]
  rfl

namespace Sample

def one : Formula := .numeral ⟨['1'], by decide, by decide, by decide⟩

def two : Formula := .numeral ⟨['2'], by decide, by decide, by decide⟩

def three : Formula := .numeral ⟨['3'], by decide, by decide, by decide⟩

def seven : Formula := .numeral ⟨['0', '0', '7'], by decide, by decide, by decide⟩

/-- `(1 + 2) * -3 - 007 / 007` -/
def exercise : Formula :=
  .binary .difference
    (.binary .product (.parens (.binary .sum one two)) (.negative three))
    (.binary .quotient seven seven)

/-- The lexemes of the exercise, with gaps of all sorts before them. -/
def exercisePieces : List (String × Token) :=
  ["\n", "", " ", " ", "", "", "\t", "", "", "\u3000", "", ""].zip exercise.tokens

end Sample

/-- Running an exercise. -/
theorem runs_formula_exercise : Sample.exercise.value = -10
    ∧ Runs .default "\n(1 + 2)*\t-3-\u3000007/007 " .new
      ⟨.finished (.value (.integer (-10))), "", .new⟩ := by
  have value : Sample.exercise.value = -10 := by decide +kernel
  have written : Sample.exercise.WellWritten :=
    ⟨by decide +kernel, by decide +kernel, by decide +kernel⟩
  have exact : Sample.exercise.Exact := ⟨by decide +kernel, by decide +kernel⟩
  have spells : Sample.exercise.Spells "\n(1 + 2)*\t-3-\u3000007/007 " := by
    exact ⟨Sample.exercisePieces, " ", by decide +kernel, rfl, by decide +kernel,
      by decide +kernel⟩
  obtain ⟨word, same, runs⟩ := runs_formula written exact spells .default .new
  have least : word = -10 := by
    rw [value] at same
    rw [← Int64.toInt_inj]
    exact_mod_cast same
  rw [least] at runs
  exact ⟨value, runs⟩

end Session

end Scriptlet
