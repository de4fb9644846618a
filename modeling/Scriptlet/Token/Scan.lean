/-
# Token.Scan -- the tokens of a text

`tokenize` reads a text from the left.  At each position the first pattern that
matches gives the next lexeme; blanks are dropped, and the end of the text adds
the end marker.  A position at which no pattern matches is an error, and so is
an integer that is too large; the leftmost error is the one reported.

Every lexeme has at least one character, so a text needs no more rounds than it
has characters.
-/
import Scriptlet.Token.Pattern

namespace Scriptlet

set_option autoImplicit false

/-- The first pattern that matches at the front of a text, the lexeme and the text
after it. -/
def firstMatch? (text : List Char) : Option (Pattern × List Char × List Char) :=
  Pattern.rules.findSome? fun pattern => (pattern.split? text).map fun split => (pattern, split)

/-- The tokens of a text that begins at `position`, found in at most `rounds`
lexemes. -/
def scan : Nat → Nat → List Char → Except SyntaxError (List Token)
  | _, position, [] => .ok [Token.endAt position]
  | 0, position, _ => .error (.unexpectedCharacter position)
  | rounds + 1, position, text =>
      match firstMatch? text with
      | none => .error (.unexpectedCharacter position)
      | some (pattern, lexeme, rest) =>
          match pattern.terminal? lexeme position with
          | .error error => .error error
          | .ok terminal? =>
              match scan rounds (position + (String.ofList lexeme).utf8ByteSize) rest with
              | .error error => .error error
              | .ok tokens =>
                  match terminal? with
                  | none => .ok tokens
                  | some terminal => .ok (⟨terminal, String.ofList lexeme, position⟩ :: tokens)

/-- The tokens of a text, the end marker included. -/
def tokenize (text : String) : Except SyntaxError (List Token) :=
  scan text.length 0 text.toList

example : (tokenize "ab+1").map (·.map Token.describe)
    = .ok ["NAME('ab')@0", "PLUS('+')@2", "NUMBER('1')@3", "ENDMARKER('')@4"] := by rfl
example : tokenize "x &" = .error (.unexpectedCharacter 2) := by rfl

end Scriptlet
