/-
# Grammar.Nesting -- the bound on brackets and signs

Before a program is read its tokens are checked for depth.  At each token the
number of brackets open there and the length of the run of signs that ends
there, minus or exclamation mark, must not exceed `maxNesting` together.  A
closing bracket too many counts for nothing.
-/
import Scriptlet.SyntaxError

namespace Scriptlet

set_option autoImplicit false

/-- The greatest depth of brackets and signs, and the greatest number of operands
in one chain of operators. -/
def maxNesting : Nat := 200

/-- The brackets open after a token, of which `depth` were open before it. -/
def Terminal.depthAfter (depth : Nat) : Terminal → Nat
  | .symbol .leftParen | .symbol .leftBracket | .symbol .leftBrace => depth + 1
  | .symbol .rightParen | .symbol .rightBracket | .symbol .rightBrace => depth - 1
  | _ => depth

/-- The signs in a row after a token, of which `run` stood directly before it. -/
def Terminal.runAfter (run : Nat) : Terminal → Nat
  | .symbol .minus | .symbol .exclamation => run + 1
  | _ => 0

/-- The first token that nests too deeply. -/
def tooDeep? (depth run : Nat) : List Token → Option Token
  | [] => none
  | token :: rest =>
      let depth := token.terminal.depthAfter depth
      let run := token.terminal.runAfter run
      if depth + run > maxNesting then some token else tooDeep? depth run rest

/-- Refuses tokens that nest too deeply. -/
def checkNesting (tokens : List Token) : Except SyntaxError Unit :=
  match tooDeep? 0 0 tokens with
  | none => .ok ()
  | some token => .error (.tooDeep token)

end Scriptlet
