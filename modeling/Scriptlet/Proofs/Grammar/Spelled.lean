/-
# Proofs.Grammar.Spelled -- tokens that one writes

Tokens made up from what they stand for, all of them at position zero, and the `Mild`
ones among their lists: those that finish what has been begun.  Mild tokens have no signs
among them and close a bracket before they open the next one, so they nest by one level at
most.
-/
import Scriptlet.Grammar.Nesting

namespace Scriptlet

set_option autoImplicit false

namespace Token

def ofSymbol (sign : Symbol) : Token := ⟨.symbol sign, sign.spelling, 0⟩

def ofKeyword (word : Keyword) : Token := ⟨.keyword word, word.spelling, 0⟩

def ofName (text : String) : Token := ⟨.name, text, 0⟩

end Token

/-! ## Tokens that finish -/

/-- Whether a terminal neither opens a bracket nor is a sign nor ends the tokens. -/
def Terminal.isMild : Terminal → Bool
  | .symbol .leftParen | .symbol .leftBracket | .symbol .leftBrace => false
  | .symbol .minus | .symbol .exclamation => false
  | .endMarker => false
  | _ => true

/-- Tokens without signs and the end marker that open one bracket at a time and close it. -/
inductive Mild : List Token → Prop where
  | nil : Mild []
  | plain {token : Token} {rest : List Token} :
      token.terminal.isMild → Mild rest → Mild (token :: rest)
  | parens {inner rest : List Token} :
      (∀ token ∈ inner, token.terminal.isMild) → Mild rest →
      Mild (.ofSymbol .leftParen :: (inner ++ .ofSymbol .rightParen :: rest))
  | braces {rest : List Token} :
      Mild rest → Mild (.ofSymbol .leftBrace :: .ofSymbol .rightBrace :: rest)

theorem Mild.one {token : Token} (mild : token.terminal.isMild) : Mild [token] :=
  .plain mild .nil

theorem Mild.append {first second : List Token} (mild : Mild first) (others : Mild second) :
    Mild (first ++ second) := by
  induction mild with
  | nil => exact others
  | plain token _ ih => exact .plain token ih
  | parens inner _ ih =>
      rw [List.cons_append, List.append_assoc, List.cons_append]
      exact .parens inner ih
  | braces _ ih => exact .braces ih

end Scriptlet
