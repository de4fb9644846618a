/-
# Proofs.Indices -- equal values as conditions and as indices

Values that are equal do the same as conditions and as indices (`looselyEquals_interchange`), in
what they yield and in how they fail, although an integer and a float take different ways into a
list: a float is first moved to the nearest integer of the language.  That never makes an index
valid, since no list or text has an item at the greatest integer.  So a number picks the item at the
position that is its value, if there is one, and fails otherwise (`indexed_eq_ok_iff`).
-/
import Scriptlet.Proofs.Equality
import Scriptlet.Proofs.Values

namespace Scriptlet

set_option autoImplicit false

namespace Integer

theorem toInt_clamp (i : Int) : (clamp i).toInt = max least (min i greatest) := by
  apply Int64.toInt_ofInt_of_le
  · simp only [least, greatest]
    omega
  · simp only [least, greatest]
    omega

theorem clamp_toInt (word : Int64) : clamp word.toInt = word := by
  have low := Int64.le_toInt word
  have high := Int64.toInt_lt word
  rw [← Int64.toInt_inj, toInt_clamp]
  simp only [least, greatest]
  omega

end Integer

namespace Value

variable {v w base element : Value} {elements : List Value}

/-! ## Equal values -/

section

variable {i : Int64} {x y : Binary64}

theorem isTruthy_float_iff : (float x).isTruthy = true ↔ x.key ≠ 0 := by
  rw [isTruthy, Binary64.isZero, Bool.not_eq_true', beq_eq_false_iff_ne, ← Binary64.natAbs_key, Ne,
    Int.natAbs_eq_zero]

theorem isTruthy_of_integerEqualsFloat (equal : integerEqualsFloat i x = true) :
    (integer i).isTruthy = (float x).isTruthy := by
  have units := (Binary64.toInt?_eq_some_iff.mp (beq_iff_eq.mp equal)).2
  have positive := Binary64.one_pos
  rw [Bool.eq_iff_iff, isTruthy_float_iff, units, isTruthy, bne_iff_ne, Ne, ← Int64.toInt_inj,
    Int64.toInt_zero, Ne, Int.mul_eq_zero, or_iff_left (by omega)]

theorem indexed_of_integerEqualsFloat (equal : integerEqualsFloat i x = true) (base : Value) :
    base.indexed (.integer i) = base.indexed (.float x) := by
  have stands : x.toInt? = some i.toInt := beq_iff_eq.mp equal
  simp only [indexed, stands, Integer.clamp_toInt]

theorem isTruthy_of_equals (equal : x.equals y = true) :
    (float x).isTruthy = (float y).isTruthy := by
  rw [Bool.eq_iff_iff, isTruthy_float_iff, isTruthy_float_iff, (Binary64.equals_iff.mp equal).2.2]

/-- A float that is no index is reported as it is, and then equal floats are the same float. -/
theorem indexed_of_equals (equal : x.equals y = true) (base : Value) :
    base.indexed (.float x) = base.indexed (.float y) := by
  obtain ⟨left, right, -⟩ := Binary64.equals_iff.mp equal
  rcases Binary64.eq_of_equals equal with rfl | ⟨zero, also⟩
  · rfl
  · simp only [indexed, Binary64.toInt?_of_magnitude left zero,
      Binary64.toInt?_of_magnitude right also]

end

/-- Equal values do the same as conditions and as indices. -/
theorem interchange_of_looselyEquals (equal : v.looselyEquals w = true) (base : Value) :
    v.isTruthy = w.isTruthy ∧ base.indexed v = base.indexed w := by
  cases v with
  | integer i =>
      cases w with
      | integer j =>
          obtain rfl : i = j := beq_iff_eq.mp equal
          exact ⟨rfl, rfl⟩
      | float y =>
          exact ⟨isTruthy_of_integerEqualsFloat equal, indexed_of_integerEqualsFloat equal base⟩
      | _ => cases equal
  | float x =>
      cases w with
      | integer j =>
          exact ⟨(isTruthy_of_integerEqualsFloat equal).symm,
            (indexed_of_integerEqualsFloat equal base).symm⟩
      | float y => exact ⟨isTruthy_of_equals equal, indexed_of_equals equal base⟩
      | _ => cases equal
  | text s =>
      cases w with
      | text t =>
          obtain rfl : s = t := beq_iff_eq.mp equal
          exact ⟨rfl, rfl⟩
      | _ => cases equal
  | boolean b =>
      cases w with
      | boolean c =>
          obtain rfl : b = c := beq_iff_eq.mp equal
          exact ⟨rfl, rfl⟩
      | _ => cases equal
  | list items =>
      cases w with
      | list others => cases items <;> cases others <;> first | exact ⟨rfl, rfl⟩ | cases equal
      | _ => cases equal
  | map entries =>
      cases w with
      | map others => cases entries <;> cases others <;> first | exact ⟨rfl, rfl⟩ | cases equal
      | _ => cases equal
  | null | function => cases w <;> first | exact ⟨rfl, rfl⟩ | cases equal

/-! ## Indices -/

/-- What a number picks from: the items of a list, or the characters of a text. -/
def elements? : Value → Option (List Value)
  | list items => some items
  | text s => some (s.toList.map fun c => .text (String.singleton c))
  | _ => none

/-- Whether a value is a number with this value. -/
def StandsFor (k : Int) : Value → Prop
  | integer i => i.toInt = k
  | float x => x.isFinite = true ∧ x.exact = k
  | _ => False

theorem elementAt_of_elements? (picks : base.elements? = some elements) (position : Int64) :
    base.elementAt position = itemAt elements position := by
  cases base with
  | list items =>
      cases picks
      rfl
  | text s =>
      cases picks
      rw [itemAt_map, elementAt]
      cases itemAt s.toList position <;> rfl
  | _ => cases picks

theorem itemAt_eq_ok_iff {position : Int64} :
    itemAt elements position = .ok element
      ↔ ∃ place : Nat, position.toInt = place ∧ elements[place]? = some element := by
  unfold itemAt
  dsimp only
  split
  · next negative =>
    refine iff_of_false (fun taken => by cases taken) ?_
    rintro ⟨place, same, -⟩
    omega
  · next inside =>
    obtain ⟨place, same⟩ := Int.eq_ofNat_of_zero_le (Int.not_lt.mp inside)
    simp only [same, Int.toNat_natCast, Int.natCast_inj, exists_eq_left']
    split
    · next item found => rw [found, Except.ok.injEq, Option.some.injEq]
    · next missing => rw [missing]; simp

/-- What is not a number has no position, and picks nothing. -/
theorem picks_nothing {index : Value} {error : RuntimeError}
    (fails : base.indexed index = .error error) (other : ∀ k, ¬ index.StandsFor k) :
    base.indexed index = .ok element
      ↔ ∃ place : Nat, index.StandsFor place ∧ elements[place]? = some element := by
  constructor
  · intro taken
    rw [fails] at taken
    cases taken
  · rintro ⟨place, stands, -⟩
    exact absurd stands (other place)

/-- An index picks an element if it is a number, its value is a position and the element is there.
-/
theorem indexed_eq_ok_iff (picks : base.elements? = some elements)
    (fits : elements.length ≤ 9223372036854775807) (index : Value) :
    base.indexed index = .ok element
      ↔ ∃ place : Nat, index.StandsFor place ∧ elements[place]? = some element := by
  cases index with
  | integer i =>
      rw [indexed, elementAt_of_elements? picks, itemAt_eq_ok_iff]
      rfl
  | float x =>
      simp only [StandsFor, ← Binary64.toInt?_eq_some_iff_exact, indexed]
      cases x.toInt? with
      | none => simp
      | some k =>
          simp only [elementAt_of_elements? picks, itemAt_eq_ok_iff, Integer.toInt_clamp,
            Option.some.injEq]
          -- The position of an element is not the greatest integer, so it was not moved there.
          refine exists_congr fun place => and_congr_left fun found => ?_
          obtain ⟨inside, -⟩ := List.getElem?_eq_some_iff.mp found
          simp only [Integer.least, Integer.greatest]
          omega
  | text key =>
      cases base with
      | list | text => exact picks_nothing rfl fun _ => id
      | _ => cases picks
  | _ => exact picks_nothing rfl fun _ => id

/-- **Equal values are interchangeable.**  They are the same as conditions, and as indices of
whatever value.  And an index of a list or a text picks an element if it is a number whose value
is one of the positions, and then the element there. -/
theorem looselyEquals_interchange (index other base : Value) :
    (index.looselyEquals other = true →
      index.isTruthy = other.isTruthy ∧ base.indexed index = base.indexed other)
    ∧ ∀ elements, base.elements? = some elements → elements.length ≤ 9223372036854775807 →
      ((∃ element, base.indexed index = .ok element)
        ↔ ∃ k : Int, index.StandsFor k ∧ 0 ≤ k ∧ k < elements.length)
      ∧ ∀ (place : Nat) (inside : place < elements.length), index.StandsFor place →
        base.indexed index = .ok elements[place] := by
  refine ⟨fun equal => interchange_of_looselyEquals equal base, fun elements picks fits => ?_⟩
  have element (place : Nat) (inside : place < elements.length) (stands : index.StandsFor place) :
      base.indexed index = .ok elements[place] :=
    (indexed_eq_ok_iff picks fits index).mpr ⟨place, stands, List.getElem?_eq_getElem inside⟩
  refine ⟨⟨?_, ?_⟩, element⟩
  · rintro ⟨_, taken⟩
    obtain ⟨place, stands, found⟩ := (indexed_eq_ok_iff picks fits index).mp taken
    obtain ⟨inside, -⟩ := List.getElem?_eq_some_iff.mp found
    exact ⟨place, stands, Int.natCast_nonneg place, Int.ofNat_lt.mpr inside⟩
  · rintro ⟨k, stands, low, high⟩
    obtain ⟨place, rfl⟩ := Int.eq_ofNat_of_zero_le low
    exact ⟨_, element place (Int.ofNat_lt.mp high) stands⟩

/-- The zeros of both kinds are one index of a text, and one behind its end is none. -/
theorem looselyEquals_interchange_zero :
    let index : Value := .float (.zero true)
    let other : Value := .integer 0
    let base : Value := .text "né"
    index.looselyEquals other = true ∧ base.elements? = some [.text "n", .text "é"]
    ∧ index.StandsFor 0
    ∧ index.isTruthy = other.isTruthy ∧ base.indexed index = base.indexed other
    ∧ base.indexed index = .ok (.text "n")
    ∧ ¬ ∃ element, base.indexed (.integer 2) = .ok element := by
  intro index other base
  have equal : index.looselyEquals other = true := by decide +kernel
  have picks : base.elements? = some [.text "n", .text "é"] := rfl
  have stands : index.StandsFor 0 := Binary64.toInt?_eq_some_iff_exact.mp (by decide +kernel)
  obtain ⟨same, element⟩ := looselyEquals_interchange index other base
  have fails := ((looselyEquals_interchange (.integer 2) other base).2 _ picks (by decide)).1
  refine ⟨equal, picks, stands, (same equal).1, (same equal).2,
    (element _ picks (by decide)).2 0 (by decide) stands, fun taken => ?_⟩
  obtain ⟨k, two, -, inside⟩ := fails.mp taken
  cases two
  exact absurd inside (by decide)

end Value

end Scriptlet
