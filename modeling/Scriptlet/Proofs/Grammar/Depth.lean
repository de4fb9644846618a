/-
# Proofs.Grammar.Depth -- how deeply tokens nest

`openBrackets` and `signRun` are the two numbers that the bound on nesting is about, for
the tokens up to some point: the brackets open there, and the signs in a row there.
`Nests bound` holds of tokens that stay within a bound at every token, and the check for
depth is exactly that for `maxNesting` (`checkNesting_ok_iff`).

Tokens that finish what was begun need one level more at most (`Nests.mild`).
-/
import Scriptlet.Proofs.Grammar.Spelled

namespace Scriptlet

set_option autoImplicit false

/-- The brackets open behind some tokens; a closing bracket too many counts for nothing. -/
def openBrackets (tokens : List Token) : Nat :=
  tokens.foldl (fun depth token => token.terminal.depthAfter depth) 0

/-- Whether a terminal can stand as a sign before an operand. -/
def Terminal.isSign : Terminal → Bool
  | .symbol .minus | .symbol .exclamation => true
  | _ => false

/-- The signs in a row at the end of some tokens. -/
def signRun (tokens : List Token) : Nat :=
  (tokens.reverse.takeWhile fun token => token.terminal.isSign).length

/-- At no token do the open brackets and the signs in a row together exceed the bound. -/
def Nests (bound : Nat) (tokens : List Token) : Prop :=
  ∀ before, before <+: tokens → openBrackets before + signRun before ≤ bound

section

variable {tokens rest : List Token} {bound : Nat}

instance : Decidable (Nests bound tokens) :=
  @decidable_of_decidable_of_iff (∀ count, count ≤ tokens.length →
      openBrackets (tokens.take count) + signRun (tokens.take count) ≤ bound) _ _
    ⟨fun within before initial => by
        rw [List.prefix_iff_eq_take.mp initial]
        exact within before.length initial.length_le,
      fun nests count _ => nests _ (List.take_prefix count tokens)⟩

theorem openBrackets_concat (tokens : List Token) (token : Token) :
    openBrackets (tokens ++ [token]) = token.terminal.depthAfter (openBrackets tokens) := by
  simp [openBrackets]

theorem signRun_concat (tokens : List Token) (token : Token) :
    signRun (tokens ++ [token]) = token.terminal.runAfter (signRun tokens) := by
  have counts : token.terminal.runAfter (signRun tokens)
      = if token.terminal.isSign then signRun tokens + 1 else 0 := by
    unfold Terminal.runAfter Terminal.isSign
    split <;> simp_all
  rw [counts]
  unfold signRun
  rw [List.reverse_append, List.reverse_singleton, List.singleton_append, List.takeWhile_cons]
  split <;> rfl

/-- The check for depth goes on from what is known of the tokens it has passed. -/
theorem tooDeep?_eq_none_iff (tokens rest : List Token) :
    tooDeep? (openBrackets tokens) (signRun tokens) rest = none
      ↔ ∀ before, before <+: rest → before ≠ [] →
        openBrackets (tokens ++ before) + signRun (tokens ++ before) ≤ maxNesting := by
  induction rest generalizing tokens with
  | nil =>
      refine ⟨fun _ before initial nonempty => ?_, fun _ => rfl⟩
      exact absurd (List.prefix_nil.mp initial) nonempty
  | cons token rest ih =>
      simp only [tooDeep?]
      rw [← openBrackets_concat, ← signRun_concat]
      constructor
      · intro passed before initial nonempty
        split at passed
        · cases passed
        · rename_i fits
          obtain ⟨first, before, rfl⟩ := List.exists_cons_of_ne_nil nonempty
          obtain ⟨rfl, shorter⟩ := List.cons_prefix_cons.mp initial
          rw [List.append_cons]
          by_cases nothing : before = []
          · rw [nothing, List.append_nil]
            exact Nat.le_of_not_gt fits
          · exact (ih _).mp passed before shorter nothing
      · intro within
        have here := within [token] (by simp) (by simp)
        rw [if_neg (Nat.not_lt.mpr here), ih]
        intro before initial _
        rw [← List.append_cons]
        exact within (token :: before) (List.cons_prefix_cons.mpr ⟨rfl, initial⟩)
          (List.cons_ne_nil _ _)

/-- The check for depth passes exactly the tokens that stay within `maxNesting`. -/
theorem checkNesting_ok_iff (tokens : List Token) :
    checkNesting tokens = .ok () ↔ Nests maxNesting tokens := by
  have passes := tooDeep?_eq_none_iff [] tokens
  simp only [List.nil_append] at passes
  have ok_iff : checkNesting tokens = .ok () ↔ tooDeep? 0 0 tokens = none := by
    unfold checkNesting
    split <;> rename_i outcome <;> simp [outcome]
  rw [ok_iff]
  refine passes.trans ⟨fun within before initial => ?_, fun within before initial _ => ?_⟩
  · by_cases nothing : before = []
    · rw [nothing]
      exact Nat.zero_le _
    · exact within before initial nothing
  · exact within before initial

theorem Nests.of_prefix (nests : Nests bound (tokens ++ rest)) : Nests bound tokens :=
  fun before initial => nests before (initial.trans (List.prefix_append tokens rest))

theorem Nests.mono {bound higher : Nat} (nests : Nests bound tokens) (le : bound ≤ higher) :
    Nests higher tokens :=
  fun before initial => Nat.le_trans (nests before initial) le

/-- One more token. -/
theorem Nests.concat {token : Token} (nests : Nests bound tokens)
    (here : token.terminal.depthAfter (openBrackets tokens)
      + token.terminal.runAfter (signRun tokens) ≤ bound) : Nests bound (tokens ++ [token]) := by
  intro before initial
  rcases List.prefix_concat_iff.mp initial with rfl | earlier
  · rw [openBrackets_concat, signRun_concat]
    exact here
  · exact nests before earlier

theorem Terminal.depthAfter_of_mild {terminal : Terminal} (mild : terminal.isMild)
    (depth : Nat) : terminal.depthAfter depth ≤ depth := by
  unfold Terminal.depthAfter
  split <;> simp_all [Terminal.isMild]

theorem Terminal.runAfter_of_mild {terminal : Terminal} (mild : terminal.isMild)
    (run : Nat) : terminal.runAfter run = 0 := by
  unfold Terminal.runAfter
  split <;> simp_all [Terminal.isMild]

/-- Behind tokens within a bound, tokens without signs and opening brackets stay within it. -/
theorem Nests.append_of_mild (nests : Nests bound tokens) (room : openBrackets tokens ≤ bound)
    (mild : ∀ token ∈ rest, token.terminal.isMild) :
    Nests bound (tokens ++ rest) ∧ openBrackets (tokens ++ rest) ≤ openBrackets tokens := by
  induction rest generalizing tokens with
  | nil =>
      rw [List.append_nil]
      exact ⟨nests, Nat.le_refl _⟩
  | cons token rest ih =>
      have here := mild token List.mem_cons_self
      have shallow := Terminal.depthAfter_of_mild here (openBrackets tokens)
      have flat := Terminal.runAfter_of_mild here (signRun tokens)
      have longer : Nests bound (tokens ++ [token]) := nests.concat (by omega)
      have others := ih longer (by rw [openBrackets_concat]; omega)
        fun other member => mild other (.tail _ member)
      rw [List.append_cons tokens token rest]
      refine ⟨others.1, Nat.le_trans others.2 ?_⟩
      rw [openBrackets_concat]
      exact shallow

/-- Mild tokens and an end marker behind tokens within a bound stay within the next one. -/
theorem Nests.mild (nests : Nests (bound + 1) tokens) (room : openBrackets tokens ≤ bound)
    (mild : Mild rest) {marker : Token} (ends : marker.terminal = .endMarker) :
    Nests (bound + 1) (tokens ++ rest ++ [marker]) := by
  induction mild generalizing tokens with
  | nil =>
      rw [List.append_nil]
      refine nests.concat ?_
      rw [ends]
      exact Nat.le_succ_of_le room
  | @plain token rest here _ ih =>
      have shallow := Terminal.depthAfter_of_mild here (openBrackets tokens)
      have flat := Terminal.runAfter_of_mild here (signRun tokens)
      rw [List.append_cons tokens token rest]
      refine ih (nests.concat (by omega)) ?_
      rw [openBrackets_concat]
      omega
  | @parens inner rest plain _ ih =>
      have opened : Nests (bound + 1) (tokens ++ [.ofSymbol .leftParen]) :=
        nests.concat (Nat.succ_le_succ room)
      have depth : openBrackets (tokens ++ [.ofSymbol .leftParen]) ≤ bound + 1 := by
        rw [openBrackets_concat]
        exact Nat.succ_le_succ room
      obtain ⟨filled, shallow⟩ := opened.append_of_mild depth plain
      have closes : openBrackets (tokens ++ [.ofSymbol .leftParen] ++ inner) - 1 ≤ bound := by
        omega
      rw [List.append_cons tokens (.ofSymbol .leftParen), ← List.append_assoc,
        List.append_cons _ (.ofSymbol .rightParen) rest]
      refine ih (filled.concat (Nat.le_succ_of_le closes)) ?_
      rw [openBrackets_concat]
      exact closes
  | @braces rest _ ih =>
      have opened : Nests (bound + 1) (tokens ++ [.ofSymbol .leftBrace]) :=
        nests.concat (Nat.succ_le_succ room)
      have depth : openBrackets (tokens ++ [.ofSymbol .leftBrace]) - 1 ≤ bound := by
        rw [openBrackets_concat]
        exact room
      rw [List.append_cons tokens (.ofSymbol .leftBrace),
        List.append_cons _ (.ofSymbol .rightBrace) rest]
      refine ih (opened.concat (Nat.le_succ_of_le depth)) ?_
      rw [openBrackets_concat]
      exact depth

end

end Scriptlet
