/-
# Text.Blank -- the characters that separate lexemes

A character is blank when it has the Unicode property White_Space: twenty-five
code points, fifteen of them outside ASCII.  Blanks part one lexeme from the
next, and trimming a line removes them from both ends.

The set is larger than the whitespace of the core library, which knows four
ASCII characters; `isBlank_of_isWhitespace` says that it contains those.
-/

namespace Scriptlet.Text

set_option autoImplicit false

/-- Whether `n` lies in one of the given ranges, ends included.  The ranges are
sorted, so the search stops at the first one that begins past `n`. -/
def inRanges : List (Nat × Nat) → Nat → Bool
  | [], _ => false
  | (first, last) :: ranges, n =>
      if n < first then false else if n ≤ last then true else inRanges ranges n

/-- The code points with the property White_Space. -/
def blankRanges : List (Nat × Nat) :=
  [(0x9, 0xD), (0x20, 0x20), (0x85, 0x85), (0xA0, 0xA0), (0x1680, 0x1680), (0x2000, 0x200A),
    (0x2028, 0x2029), (0x202F, 0x202F), (0x205F, 0x205F), (0x3000, 0x3000)]

/-- Whether a character separates lexemes. -/
def isBlank (c : Char) : Bool := inRanges blankRanges c.toNat

/-- The text without the blanks at its two ends. -/
def trim (text : String) : String :=
  String.ofList ((text.toList.dropWhile isBlank).reverse.dropWhile isBlank).reverse

theorem isBlank_of_isWhitespace (c : Char) (white : c.isWhitespace = true) :
    isBlank c = true := by
  simp only [Char.isWhitespace, Bool.or_eq_true, decide_eq_true_eq] at white
  rcases white with ((rfl | rfl) | rfl) | rfl <;> decide

example : trim "\u3000 a b\r\n" = "a b" := by decide

end Scriptlet.Text
