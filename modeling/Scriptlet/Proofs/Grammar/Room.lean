/-
# Proofs.Grammar.Room -- the bound on nesting, phrase by phrase

The check for depth runs over all tokens of a text with two counters.  `Fits depth run`
says that it passes some of these tokens when the counters stand at `depth` and `run`
before them, so the check of a whole list is that of its parts one after the other, each
of them with the counters that the part before it leaves (`fits_append`).
-/
import Scriptlet.Proofs.Grammar.Joining

namespace Scriptlet.Grammar

set_option autoImplicit false

/-- The signs in a row behind some tokens, of which `run` stood directly before them. -/
def runBehind (run : Nat) (tokens : List Token) : Nat :=
  tokens.foldl (fun run token => token.terminal.runAfter run) run

/-- No token nests too deeply, with `depth` brackets open and `run` signs in a row before the
first one. -/
def Fits (depth run : Nat) (tokens : List Token) : Prop := tooDeep? depth run tokens = none

variable {depth run : Nat} {tokens first second : List Token} {token : Token}

@[simp] theorem fits_nil : Fits depth run [] := rfl

@[simp] theorem fits_cons : Fits depth run (token :: tokens)
    ↔ token.terminal.depthAfter depth + token.terminal.runAfter run ≤ maxNesting
      ∧ Fits (token.terminal.depthAfter depth) (token.terminal.runAfter run) tokens := by
  simp only [Fits, tooDeep?]
  split
  · rename_i deep
    exact ⟨fun passed => absurd passed (Option.some_ne_none _),
      fun fits => absurd fits.1 (Nat.not_le.mpr deep)⟩
  · rename_i shallow
    exact ⟨fun passed => ⟨Nat.le_of_not_gt shallow, passed⟩, fun fits => fits.2⟩

theorem fits_append : Fits depth run (first ++ second)
    ↔ Fits depth run first ∧ Fits (depthBehind depth first) (runBehind run first) second := by
  induction first generalizing depth run with
  | nil => exact (and_iff_right fits_nil).symm
  | cons token first ih =>
      rw [List.cons_append, fits_cons, fits_cons, ih, and_assoc]
      rfl

/-- A list of tokens nests within the bound exactly if it passes with both counters at zero. -/
theorem nests_iff_fits : Nests maxNesting tokens ↔ Fits 0 0 tokens := by
  rw [← checkNesting_ok_iff, checkNesting, Fits]
  split <;> rename_i outcome <;> simp [outcome]

theorem runAfter_le (terminal : Terminal) {fewer : Nat} (le : fewer ≤ run) :
    terminal.runAfter fewer ≤ terminal.runAfter run := by
  unfold Terminal.runAfter
  split <;> omega

/-- What fits behind some signs fits behind fewer of them. -/
theorem Fits.fewer (fits : Fits depth run tokens) {fewer : Nat} (le : fewer ≤ run) :
    Fits depth fewer tokens := by
  induction tokens generalizing depth run fewer with
  | nil => exact fits_nil
  | cons token tokens ih =>
      rw [fits_cons] at fits ⊢
      have signs := runAfter_le token.terminal le
      exact ⟨Nat.le_trans (Nat.add_le_add_left signs _) fits.1, ih fits.2 signs⟩

/-- What stands behind a phrase that closes all of its brackets. -/
theorem Balanced.fits_append (balanced : Balanced first) :
    Fits depth run (first ++ second)
      ↔ Fits depth run first ∧ Fits depth (runBehind run first) second := by
  rw [Grammar.fits_append, balanced depth]

end Scriptlet.Grammar
