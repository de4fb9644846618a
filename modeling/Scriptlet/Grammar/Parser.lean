/-
# Grammar.Parser -- reading a list of tokens from the left

A `Parser` takes some tokens off the front of a list, or fails with the reason
why it cannot.  It fails at the first token that it cannot use, and never tries
another way through tokens that it has taken.  What to do next is decided by
the token ahead (`ahead`, `accept`), which stays where it is unless it is taken.
-/
import Scriptlet.SyntaxError
import Scriptlet.Tree

namespace Scriptlet

set_option autoImplicit false

/-- Takes tokens off the front of a list and returns a result, or fails. -/
abbrev Parser (α : Type) := StateT (List Token) (Except SyntaxError) α

namespace Parser

/-- Fails at the token ahead. -/
def fail {α : Type} (expected : Expected) : Parser α := fun tokens =>
  .error (.ofRest expected tokens)

/-- The terminal ahead, which is left there. -/
def ahead : Parser (Option Terminal) := fun tokens =>
  .ok (tokens.head?.map Token.terminal, tokens)

/-- Drops the token ahead. -/
def skip : Parser Unit := fun tokens => .ok ((), tokens.tail)

/-- Takes a symbol if it is ahead, and tells whether it was. -/
def accept (sign : Symbol) : Parser Bool := do
  if (← ahead) = some (.symbol sign) then
    skip
    pure true
  else pure false

/-- Takes a symbol that has to be ahead. -/
def symbol (sign : Symbol) : Parser Unit := do
  if !(← accept sign) then fail (.symbol sign)

/-- Takes a name. -/
def name : Parser Name := fun tokens =>
  match tokens with
  | token :: rest =>
      if token.terminal = .name then .ok (⟨token.lexeme, some token.position⟩, rest)
      else fail .identifier tokens
  | [] => fail .identifier tokens

/-- Items with commas between them and the closing symbol after the last; at most
`rounds` of them. -/
def separated {α : Type} (item : Parser α) (close : Symbol) : Nat → Parser (List α)
  | 0 => fail .expression
  | rounds + 1 => do
      let first ← item
      if ← accept .comma then
        let others ← separated item close rounds
        pure (first :: others)
      else if ← accept close then pure [first]
      else fail (.either .comma close)

/-- No item or several, up to the closing symbol. -/
def listOf {α : Type} (rounds : Nat) (item : Parser α) (close : Symbol) : Parser (List α) := do
  if ← accept close then pure [] else separated item close rounds

end Parser

end Scriptlet
