/-
# Console.Cluster -- the characters that a reader sees

`clusters` cuts a text into extended grapheme clusters.  Whether the text is cut
before a character depends on the roles of that character and of the one before it,
and on three things about the text before it that `Context` keeps: how many halves of
flags end there in a row, whether a pictograph with a joiner ends there, and whether
a consonant with a linker does.

This stands in for a package, as `Console.Typed` does, and nothing is proved from it.
-/
import Scriptlet.Console.ClusterRole

namespace Scriptlet.Console

set_option autoImplicit false

/-! ## The text before a cut -/

/-- How far a sequence has come that joins two characters of one kind: not begun, begun
by the first of them, or ready to take the second. -/
inductive Bond where
  | none | begun | ready
  deriving DecidableEq, Repr

/-- What the text before a place says about cutting there. -/
structure Context where
  role : ClusterRole
  flags : Nat
  pictographs : Bond
  consonants : Bond

namespace Context

/-- The bond of pictographs after a character: a pictograph, extenders, and a joiner. -/
def pictographsAfter (bond : Bond) : ClusterRole → Bond
  | .pictograph => .begun
  | .extender | .nonJoiner | .linker => if bond = .begun then .begun else .none
  | .joiner => if bond = .begun then .ready else .none
  | _ => .none

/-- The bond of consonants after a character: a consonant, then extenders and joiners
with a linker among them. -/
def consonantsAfter (bond : Bond) : ClusterRole → Bond
  | .consonant => .begun
  | .extender | .joiner => bond
  | .linker => if bond = .none then .none else .ready
  | _ => .none

/-- The context before any text. -/
def start : Context := ⟨.control, 0, .none, .none⟩

/-- The context after one more character. -/
def after (context : Context) (role : ClusterRole) : Context where
  role := role
  flags := if role = .regional then context.flags + 1 else 0
  pictographs := pictographsAfter context.pictographs role
  consonants := consonantsAfter context.consonants role

end Context

/-! ## Where to cut -/

/-- Whether a role keeps a character apart from its neighbours. -/
def ClusterRole.isControl : ClusterRole → Bool
  | .control | .carriageReturn | .lineFeed => true
  | _ => false

/-- Whether two parts of a syllable of Hangul belong together. -/
def joinsHangul : ClusterRole → ClusterRole → Bool
  | .hangulL, .hangulL | .hangulL, .hangulV | .hangulL, .hangulLV | .hangulL, .hangulLVT => true
  | .hangulLV, .hangulV | .hangulLV, .hangulT | .hangulV, .hangulV | .hangulV, .hangulT => true
  | .hangulLVT, .hangulT | .hangulT, .hangulT => true
  | _, _ => false

/-- Whether a character joins whatever stands before it. -/
def ClusterRole.trails : ClusterRole → Bool
  | .extender | .nonJoiner | .joiner | .linker | .spacing => true
  | _ => false

/-- Whether a character belongs to the cluster that ends before it. -/
def joins (context : Context) (role : ClusterRole) : Bool :=
  if context.role = .carriageReturn ∧ role = .lineFeed then true
  else if context.role.isControl || role.isControl then false
  else joinsHangul context.role role || role.trails || context.role = .leader
    || (context.consonants = .ready && role = .consonant)
    || (context.pictographs = .ready && role = .pictograph)
    || (role = .regional && context.flags % 2 = 1)

/-- The clusters of a text that follows the given context and a cluster that has not
ended, whose characters come in reverse. -/
def clustersAfter (context : Context) (reversed : List Char) : List Char → List (List Char)
  | [] => if reversed.isEmpty then [] else [reversed.reverse]
  | c :: rest =>
      let role := clusterRole c
      if reversed.isEmpty || joins context role then
        clustersAfter (context.after role) (c :: reversed) rest
      else reversed.reverse :: clustersAfter (context.after role) [c] rest

/-- The extended grapheme clusters of a text. -/
def clusters (text : List Char) : List (List Char) := clustersAfter .start [] text

example : clusters "xe\u0301\r\n".toList = [['x'], ['e', '\u0301'], ['\r', '\n']] := by
  decide +kernel

end Scriptlet.Console
