/-
# Number.Binary64 -- floats of the language

A float is a sign, an exponent of eleven bits and a fraction of fifty-two, the
interchange format of that width.  Every finite float is a whole number of
*units* of 2^-1074, its `magnitude`, with a sign; so each operation is defined
on whole numbers: compute the exact result as a quotient, then `round` it to
the nearest float, ties to the even significand.

Two floats are compared by their signed magnitudes (`key`).  The formula of the
magnitude also gives infinity a place, above every finite float.  A NaN has no
place and compares false with everything.
-/
import Scriptlet.Number.Integer

namespace Scriptlet

set_option autoImplicit false

/-- A float: sign, biased exponent, fraction. -/
structure Binary64 where
  negative : Bool
  exponent : Fin 2048
  fraction : Fin 4503599627370496
  deriving DecidableEq, Repr

namespace Binary64

/-! ## What a float stands for -/

def isFinite (x : Binary64) : Bool := x.exponent.val != 2047

def isNaN (x : Binary64) : Bool := x.exponent.val == 2047 && x.fraction.val != 0

def isInfinite (x : Binary64) : Bool := x.exponent.val == 2047 && x.fraction.val == 0

/-- The significand, with its leading one unless the float is subnormal. -/
def significand (x : Binary64) : Nat :=
  if x.exponent.val = 0 then x.fraction.val else Nat.pow 2 52 + x.fraction.val

/-- The absolute value of a finite float, in units. -/
def magnitude (x : Binary64) : Nat := x.significand * Nat.pow 2 (x.exponent.val - 1)

/-- The number of units in one. -/
def one : Nat := Nat.pow 2 1074

/-- The value in units; of the infinities, a number beyond all finite floats. -/
def key (x : Binary64) : Int := if x.negative then -(x.magnitude : Int) else x.magnitude

/-- The integer that a float stands for, if it stands for one. -/
def toInt? (x : Binary64) : Option Int :=
  if x.isFinite && x.magnitude % one == 0 then
    some (if x.negative then -((x.magnitude / one : Nat) : Int) else (x.magnitude / one : Nat))
  else none

/-! ## Rounding -/

def infinity (negative : Bool) : Binary64 := ⟨negative, 2047, 0⟩

def zero (negative : Bool) : Binary64 := ⟨negative, 0, 0⟩

def nan : Binary64 := ⟨false, 2047, 2251799813685248⟩

/-- The float whose exponent and fraction, read as one number, are `pattern`;
infinity from the first pattern on that no finite float has. -/
def ofPattern (negative : Bool) (pattern : Nat) : Binary64 :=
  if small : pattern < 2047 * 4503599627370496 then
    ⟨negative, ⟨pattern / 4503599627370496, by omega⟩, ⟨pattern % 4503599627370496, by omega⟩⟩
  else infinity negative

/-- The whole number nearest to a quotient, ties to the even one. -/
def nearest (num den : Nat) : Nat :=
  let floor := num / den
  let rest := num % den
  if 2 * rest < den ∨ (2 * rest = den ∧ floor % 2 = 0) then floor else floor + 1

/-- The float nearest to `num / den` units.  Fifty-three bits of the quotient
are kept, or all of it if it has fewer; a carry out of the significand moves on
into the exponent, since the two are written side by side. -/
def round (negative : Bool) (num den : Nat) : Binary64 :=
  let shift := Nat.log2 (num / den) - 52
  ofPattern negative (shift * 4503599627370496 + nearest num (den * Nat.pow 2 shift))

/-- The float nearest to an integer. -/
def ofInt (i : Int) : Binary64 := round (i < 0) (i.natAbs * one) 1

/-- The float nearest to a decimal: some digits, of which the last `places` stand
behind the point. -/
def ofDecimal (negative : Bool) (digits places : Nat) : Binary64 :=
  round negative (digits * one) (Nat.pow 10 places)

/-! ## Arithmetic -/

def neg (x : Binary64) : Binary64 := { x with negative := !x.negative }

def add (x y : Binary64) : Binary64 :=
  if x.isNaN || y.isNaN then nan
  else if x.isInfinite then
    if y.isInfinite && x.negative != y.negative then nan else x
  else if y.isInfinite then y
  else
    let sum := x.key + y.key
    if sum = 0 then zero (x.negative && y.negative) else round (sum < 0) sum.natAbs 1

def sub (x y : Binary64) : Binary64 := x.add y.neg

def mul (x y : Binary64) : Binary64 :=
  let negative := x.negative != y.negative
  if x.isNaN || y.isNaN then nan
  else if x.isInfinite || y.isInfinite then
    if x.magnitude = 0 ∨ y.magnitude = 0 then nan else infinity negative
  else round negative (x.magnitude * y.magnitude) one

def div (x y : Binary64) : Binary64 :=
  let negative := x.negative != y.negative
  if x.isNaN || y.isNaN then nan
  else if x.isInfinite then
    if y.isInfinite then nan else infinity negative
  else if y.isInfinite then zero negative
  else if y.magnitude = 0 then
    if x.magnitude = 0 then nan else infinity negative
  else round negative (x.magnitude * one) y.magnitude

/-! ## Comparison -/

/-- Equality of values: the two zeros are equal, and a NaN equals nothing. -/
def equals (x y : Binary64) : Bool := !x.isNaN && !y.isNaN && x.key == y.key

/-- The order of values; a NaN has none. -/
def order? (x y : Binary64) : Option Ordering :=
  if x.isNaN || y.isNaN then none else some (compare x.key y.key)

/-- Whether a float is one of the two zeros. -/
def isZero (x : Binary64) : Bool := x.magnitude == 0

/-! ## The bits -/

/-- The float of a sixty-four bit pattern. -/
def ofBits (bits : Nat) : Binary64 :=
  ⟨bits / Nat.pow 2 63 % 2 == 1, Fin.ofNat 2048 (bits / Nat.pow 2 52),
    Fin.ofNat 4503599627370496 bits⟩

/-- The sixty-four bit pattern of a float. -/
def toBits (x : Binary64) : Nat :=
  (if x.negative then Nat.pow 2 63 else 0) + x.exponent.val * Nat.pow 2 52 + x.fraction.val

theorem ofBits_toBits (x : Binary64) : ofBits x.toBits = x := by
  obtain ⟨negative, ⟨exponent, small⟩, ⟨fraction, tiny⟩⟩ := x
  cases negative <;>
    simp only [ofBits, toBits, mk.injEq, Fin.ext_iff, Fin.val_ofNat, beq_iff_eq,
      Bool.false_eq_true, if_true, if_false, beq_eq_false_iff_ne, ne_eq, Nat.pow_eq] <;> omega

example : (ofInt 1).div (ofInt 3) = ofBits 0x3fd5555555555555 := by decide +kernel
example : ofInt 9007199254740993 = ofInt 9007199254740992 := by decide +kernel

end Binary64

end Scriptlet
