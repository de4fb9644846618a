/-
# Text.Location -- lines and columns

Positions in a source text are byte offsets of its UTF-8 form.  A `Location` is
what a reader is told instead: the line and the column, both counted from one,
the column in characters.  Only a line feed ends a line.

`Location.ofOffset` answers for every offset.  One inside a character counts as
the boundary after that character, and one past the end as the end.
-/

namespace Scriptlet

set_option autoImplicit false

/-- A line and a column, both counted from one. -/
structure Location where
  line : Nat
  column : Nat
  deriving DecidableEq, Repr

namespace Location

/-- Where a text begins. -/
def start : Location := ⟨1, 1⟩

/-- The location after the given character. -/
def after (here : Location) (c : Char) : Location :=
  if c = '\n' then ⟨here.line + 1, 1⟩ else ⟨here.line, here.column + 1⟩

/-- The location reached from `here` when `bytes` more bytes, rounded up to whole
characters, have been read. -/
def advance (here : Location) : Nat → List Char → Location
  | _, [] => here
  | 0, _ => here
  | bytes, c :: rest => advance (here.after c) (bytes - c.utf8Size) rest

/-- The location of a byte offset in a text. -/
def ofOffset (text : String) (offset : Nat) : Location :=
  start.advance offset text.toList

/-- The wording of a location in an error report. -/
def describe (here : Location) : String := s!"line {here.line}, column {here.column}"

example : ofOffset "a\né!" 4 = ⟨2, 2⟩ := by decide
example : ofOffset "a\né!" 3 = ⟨2, 2⟩ ∧ ofOffset "a\né!" 99 = ⟨2, 3⟩ := by decide

end Location

end Scriptlet
