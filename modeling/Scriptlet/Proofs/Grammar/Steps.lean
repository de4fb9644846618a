/-
# Proofs.Grammar.Steps -- parsers step by step

What each of the small parsers does with the tokens in front of it, one equation for
each way it can go.  The rules of the grammar are put together from them by `>>=`, which
goes on where the first parser stopped (`bind_ok`) or fails as it failed (`bind_error`).
-/
import Scriptlet.Proofs.Grammar.Derivation

namespace Scriptlet.Parser

open Grammar

set_option autoImplicit false

variable {α β : Type} {tokens rest : List Token} {token : Token} {sign : Symbol}

theorem bind_ok {first : Parser α} {value : α} (taken : first tokens = .ok (value, rest))
    (next : α → Parser β) : (first >>= next) tokens = next value rest := by
  show (first tokens >>= fun result => next result.1 result.2) = _
  rw [taken]
  rfl

theorem bind_error {first : Parser α} {error : SyntaxError} (failed : first tokens = .error error)
    (next : α → Parser β) : (first >>= next) tokens = .error error := by
  show (first tokens >>= fun result => next result.1 result.2) = _
  rw [failed]
  rfl

theorem ahead_bind (next : Option Terminal → Parser β) (tokens : List Token) :
    (ahead >>= next) tokens = next (front? tokens) tokens := rfl

theorem skip_bind (next : Unit → Parser β) (token : Token) (rest : List Token) :
    (skip >>= next) (token :: rest) = next () rest := rfl

theorem operatorAhead?_bind (level : Level) (next : Option Operator → Parser β)
    (tokens : List Token) :
    (operatorAhead? level >>= next) tokens = next ((front? tokens).bind level.operator?) tokens :=
  rfl

theorem accept_here (here : token.terminal = .symbol sign) (rest : List Token) :
    accept sign (token :: rest) = .ok (true, rest) := by
  simp only [accept]
  rw [ahead_bind, if_pos (by simp [front?, here])]
  rfl

theorem accept_elsewhere (elsewhere : front? tokens ≠ some (.symbol sign)) :
    accept sign tokens = .ok (false, tokens) := by
  simp only [accept]
  rw [ahead_bind, if_neg elsewhere]
  rfl

theorem symbol_here (here : token.terminal = .symbol sign) (rest : List Token) :
    symbol sign (token :: rest) = .ok ((), rest) := by
  simp only [symbol]
  rw [bind_ok (accept_here here rest)]
  rfl

theorem symbol_elsewhere (elsewhere : front? tokens ≠ some (.symbol sign)) :
    symbol sign tokens = .error (.ofRest (.symbol sign) tokens) := by
  simp only [symbol]
  rw [bind_ok (accept_elsewhere elsewhere)]
  rfl

theorem name_here (here : token.terminal = .name) (rest : List Token) :
    name (token :: rest) = .ok (token.named, rest) := by
  simp only [name, if_pos here]
  rfl

theorem name_elsewhere (elsewhere : front? tokens ≠ some .name) :
    name tokens = .error (.ofRest .identifier tokens) := by
  cases tokens with
  | nil => rfl
  | cons token rest =>
      have other : token.terminal ≠ .name := fun here => elsewhere (by simp [front?, here])
      simp only [name, if_neg other]
      rfl

end Scriptlet.Parser
