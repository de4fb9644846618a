/-
# Number.Decimal -- the text of a float

A float that stands for an integer is written with all its digits and ".0".
Any other finite float is written with as few digits behind the point as allow
the text to be read back (`Binary64.ofDecimal`), and of two such texts the one
nearer to the float.  No exponent is ever used.

At each number of places only the two decimals on either side of the float can
be read back if any can, so those are the two that are tried.
-/
import Scriptlet.Number.Binary64

namespace Scriptlet.Binary64

set_option autoImplicit false

/-- Digits behind the point that suffice to write any finite float exactly. -/
def exactPlaces : Nat := 1074

/-- Of the decimals with the given number of places that read back as `x`, the one
nearest to it; a tie goes to the larger. -/
def decimalAt? (x : Binary64) (places : Nat) : Option Nat :=
  let scaled := x.magnitude * Nat.pow 10 places
  let below := scaled / one
  let lower := ofDecimal x.negative below places == x
  let upper := ofDecimal x.negative (below + 1) places == x
  if upper && (!lower || 2 * (scaled % one) ≥ one) then some (below + 1)
  else if lower then some below
  else none

/-- The decimal with the fewest places, from `places` on, that reads back as `x`:
its digits and their number behind the point.  After `more` further places the
float is written exactly. -/
def shortestFrom (x : Binary64) : Nat → Nat → Nat × Nat
  | 0, places => (x.magnitude * Nat.pow 10 places / one, places)
  | more + 1, places =>
      match x.decimalAt? places with
      | some digits => (digits, places)
      | none => shortestFrom x more (places + 1)

/-- A decimal in positional form. -/
def positional (digits places : Nat) : String :=
  let behind := Nat.toDigits 10 (digits % Nat.pow 10 places)
  String.ofList (Nat.toDigits 10 (digits / Nat.pow 10 places) ++ '.' ::
    (List.replicate (places - behind.length) '0' ++ behind))

/-- The text of a float. -/
def text (x : Binary64) : String :=
  if x.isNaN then "NaN"
  else
    let sign := if x.negative then "-" else ""
    if x.isInfinite then sign ++ "inf"
    else if x.magnitude % one = 0 then sign ++ Nat.repr (x.magnitude / one) ++ ".0"
    else
      let (digits, places) := x.shortestFrom (exactPlaces - 1) 1
      sign ++ positional digits places

end Scriptlet.Binary64
