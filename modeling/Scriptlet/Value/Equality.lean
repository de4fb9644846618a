/-
# Value.Equality -- two notions of equality

`looselyEquals` is the operator of the language.  An integer equals a float if
the float stands for exactly that integer, at every magnitude and at any depth
inside lists and maps.  `strictlyEquals` keeps the two kinds of numbers apart.
Both compare functions as trees, where integer and float literals differ, and
neither makes a NaN equal to itself.
-/
import Scriptlet.Value

namespace Scriptlet.Value

set_option autoImplicit false

/-- Whether a float stands for exactly this integer. -/
def integerEqualsFloat (i : Int64) (x : Binary64) : Bool := x.toInt? == some i.toInt

mutual

/-- Equality that keeps integers and floats apart. -/
def strictlyEquals (v w : Value) : Bool :=
  match v, w with
  | .integer a, .integer b => a == b
  | .float a, .float b => a.equals b
  | .text a, .text b => a == b
  | .boolean a, .boolean b => a == b
  | .null, .null => true
  | .list a, .list b => strictlyEqualItems a b
  | .map a, .map b => strictlyEqualEntries a b
  | .function m a, .function n b => Name.sameAll m n && a.same b
  | _, _ => false
termination_by structural v

def strictlyEqualItems (vs ws : List Value) : Bool :=
  match vs, ws with
  | [], [] => true
  | v :: vs, w :: ws => v.strictlyEquals w && strictlyEqualItems vs ws
  | _, _ => false
termination_by structural vs

def strictlyEqualEntries (vs ws : List (String × Value)) : Bool :=
  match vs, ws with
  | [], [] => true
  | v :: vs, w :: ws => strictlyEqualEntry v w && strictlyEqualEntries vs ws
  | _, _ => false
termination_by structural vs

def strictlyEqualEntry (v w : String × Value) : Bool :=
  match v, w with
  | (key, a), (other, b) => key == other && a.strictlyEquals b
termination_by structural v

end

mutual

/-- Equality of the language: an integer equals the float of the same value. -/
def looselyEquals (v w : Value) : Bool :=
  match v, w with
  | .integer a, .integer b => a == b
  | .integer a, .float b => integerEqualsFloat a b
  | .float a, .integer b => integerEqualsFloat b a
  | .float a, .float b => a.equals b
  | .text a, .text b => a == b
  | .boolean a, .boolean b => a == b
  | .null, .null => true
  | .list a, .list b => looselyEqualItems a b
  | .map a, .map b => looselyEqualEntries a b
  | .function m a, .function n b => Name.sameAll m n && a.same b
  | _, _ => false
termination_by structural v

def looselyEqualItems (vs ws : List Value) : Bool :=
  match vs, ws with
  | [], [] => true
  | v :: vs, w :: ws => v.looselyEquals w && looselyEqualItems vs ws
  | _, _ => false
termination_by structural vs

def looselyEqualEntries (vs ws : List (String × Value)) : Bool :=
  match vs, ws with
  | [], [] => true
  | v :: vs, w :: ws => looselyEqualEntry v w && looselyEqualEntries vs ws
  | _, _ => false
termination_by structural vs

def looselyEqualEntry (v w : String × Value) : Bool :=
  match v, w with
  | (key, a), (other, b) => key == other && a.looselyEquals b
termination_by structural v

end

example : (list [.integer 2]).looselyEquals (.list [.float (.ofInt 2)]) = true := by
  decide +kernel
example : (list [.integer 2]).strictlyEquals (.list [.float (.ofInt 2)]) = false := by
  decide +kernel

end Scriptlet.Value
