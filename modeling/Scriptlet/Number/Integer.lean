/-
# Number.Integer -- exact results in sixty-four bits

Integers of the language are the signed words of sixty-four bits.  No operation
on them wraps: a result is computed over all integers first, and `ofExact?`
says whether it fits.  A remainder is known only of a division whose quotient
fits (`remainder?`).  `clamp` takes the nearest word instead, for an index that
is out of every range anyhow.
-/

namespace Scriptlet.Integer

set_option autoImplicit false

/-- The least integer of the language. -/
def least : Int := -9223372036854775808

/-- The greatest integer of the language. -/
def greatest : Int := 9223372036854775807

/-- The word of an integer, if one holds it. -/
def ofExact? (i : Int) : Option Int64 :=
  if least ≤ i ∧ i ≤ greatest then some (Int64.ofInt i) else none

/-- The remainder of a division of words, if there is one: not by zero, and not of the least word by
minus one, of which the quotient is no word. -/
def remainder? (a b : Int) : Option Int :=
  if b = 0 ∨ a = least ∧ b = -1 then none else some (a.tmod b)

/-- The word nearest to an integer. -/
def clamp (i : Int) : Int64 := Int64.ofInt (max least (min i greatest))

theorem toInt_of_ofExact? {i : Int} {word : Int64} (fits : ofExact? i = some word) :
    word.toInt = i := by
  unfold ofExact? at fits
  split at fits
  · next range =>
    cases fits
    exact Int64.toInt_ofInt_of_le (by have := range.1; simpa [least] using this)
      (by have := range.2; simp only [greatest] at this; omega)
  · cases fits

theorem ofExact?_toInt (word : Int64) : ofExact? word.toInt = some word := by
  have low := Int64.le_toInt word
  have high := Int64.toInt_lt word
  unfold ofExact? least greatest
  rw [if_pos (by omega), Int64.ofInt_toInt]

theorem toInt_le_greatest (word : Int64) : word.toInt ≤ greatest :=
  Int.le_of_lt_add_one (Int64.toInt_lt word)

/-- A word times a divisor leaves the remainder zero. -/
theorem remainder?_mul {q b : Int} (nonzero : b ≠ 0) (word : q ≤ greatest) :
    remainder? (q * b) b = some 0 := by
  have inside : ¬ (q * b = least ∧ b = -1) := by
    rintro ⟨product, rfl⟩
    unfold greatest at word
    unfold least at product
    omega
  rw [remainder?, if_neg (by simp [nonzero, inside]), Int.mul_tmod_left]

theorem dvd_of_remainder? {a b : Int} (whole : remainder? a b = some 0) : b ∣ a := by
  unfold remainder? at whole
  split at whole
  · cases whole
  · exact Int.dvd_of_tmod_eq_zero (Option.some.inj whole)

end Scriptlet.Integer
