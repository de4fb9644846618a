/-
# Proofs.Spacing -- layout never matters

A text can be written with other blanks around its lexemes and has the same tokens, at other
places (`tokenize_spread`).  And two texts with the same tokens at other places are the same
program: they are parsed alike (`Grammar.parse_twins`), and they run alike from every environment
and within every allowance of rounds (`run_twins`).

A position flows into the names of a tree, from there into functions, and into the report of a
syntax error, and that is where the two runs may differ.  As for texts that stand further on in
another one, both runs are compared with a third one, of the tree with all names at the start.
-/
import Scriptlet.Proofs.Grammar.Uniform
import Scriptlet.Proofs.Sequencing
import Scriptlet.Proofs.Token.Layout

namespace Scriptlet

set_option autoImplicit false

/-! ## Tokens -/

/-- The tokens of a text and its end marker, next to a list with the same tokens. -/
theorem abreast_of_twins {tokens others : List Token} {marker : Token}
    (unmarked : ∀ token ∈ tokens, token.terminal ≠ .endMarker) (ends : marker.terminal = .endMarker)
    (twins : List.Forall₂ Token.Twin (tokens ++ [marker]) others) :
    Grammar.Abreast (tokens ++ [marker]) others := by
  induction tokens generalizing others with
  | nil =>
      cases twins with
      | cons twin _ => exact .marker twin ends
  | cons token tokens ih =>
      rw [List.forall_mem_cons] at unmarked
      cases twins with
      | cons twin further => exact .token twin unmarked.1 (ih unmarked.2 further)

/-- Lexemes that are written anew stand for the same. -/
theorem placed_twins (pieces : List (String × Token)) (position : Nat) :
    List.Forall₂ Token.Twin (pieces.map Prod.snd) (placed position pieces) := by
  induction pieces generalizing position with
  | nil => exact .nil
  | cons piece pieces ih => exact .cons ⟨rfl, rfl⟩ (ih _)

/-! ## Evaluations of twins -/

/-- A run and the run with all names at the start, within the same limits. -/
def Likeness.placeless (limits : Limits) : Likeness :=
  { Likeness.atStart limits.calls "" with
    limits
    printed := Eq
    write := Likeness.write_eq
    full := Likeness.full_eq limits }

namespace Evaluation

variable {machine : Machine} {tree tree' : Node}

/-- Trees that differ in where their names stand are evaluated alike. -/
theorem evaluate_twins (limits : Limits) (rounds : Nat) (twins : tree.Twin tree')
    (rooted : 0 < machine.environment.depth) :
    (evaluate limits rounds tree machine).Matches False
      (fun flow flow' => flow.relabel Name.atStart = flow'.relabel Name.atStart)
      (fun after after' => after.environment.relabel Name.atStart
          = after'.environment.relabel Name.atStart
        ∧ after.printed = after'.printed)
      (evaluate limits rounds tree' machine) := by
  have everywhere (node : Node) : node.Throughout fun _ => True := fun _ _ => trivial
  let third : Machine := { machine with environment := machine.environment.relabel Name.atStart }
  have alike : (Likeness.placeless limits).Machines machine third := ⟨⟨rooted, rfl⟩, rfl, rfl⟩
  have first := @Likeness.evaluate_matches (.placeless limits) _ (everywhere tree) rounds rounds
    (.inl rfl) machine third alike
  have second := @Likeness.evaluate_matches (.placeless limits) _ (everywhere tree') rounds rounds
    (.inl rfl) machine third alike
  rw [show tree.relabel (Likeness.placeless limits).label
    = tree'.relabel (Likeness.placeless limits).label from twins] at first
  refine first.span second ?_ ?_
  · intro flow flow' common flows flows'
    exact flows.eq_relabel.symm.trans flows'.eq_relabel
  · intro after after' common machines machines'
    exact ⟨machines.environment.2.symm.trans machines'.environment.2,
      machines.printed.trans machines'.printed.symm⟩

end Evaluation

/-! ## Runs of texts -/

/-- Endings of two texts with the same tokens: the same error of the run, flows that are the same
up to the positions of names, or the same complaint about two tokens at the same place. -/
inductive Ending.Twin (tokens others : List Token) : Ending → Ending → Prop where
  | finished {flow flow' : Flow} : flow.relabel Name.atStart = flow'.relabel Name.atStart →
      Twin tokens others (.finished flow) (.finished flow')
  | failed (error : RuntimeError) : Twin tokens others (.failed error) (.failed error)
  | refused {token other : Token} (expected : Expected) (found : Found) :
      (token, other) ∈ tokens.zip others →
      Twin tokens others (.refused (.unexpected expected found token.position))
        (.refused (.unexpected expected found other.position))

/-- What two texts with the same tokens leave behind. -/
structure Transcript.Twin (tokens others : List Token) (ran also : Transcript) : Prop where
  ending : ran.ending.Twin tokens others also.ending
  printed : ran.printed = also.printed
  environment : ran.environment.relabel Name.atStart = also.environment.relabel Name.atStart

theorem Outcome.Matches.twin {tokens others : List Token} {outcome outcome' : Outcome Flow}
    (matching : outcome.Matches False
      (fun flow flow' => flow.relabel Name.atStart = flow'.relabel Name.atStart)
      (fun after after' => after.environment.relabel Name.atStart
          = after'.environment.relabel Name.atStart
        ∧ after.printed = after'.printed) outcome') :
    Option.Rel (Transcript.Twin tokens others) outcome.transcript? outcome'.transcript? := by
  cases matching with
  | done flows machines => exact .some ⟨.finished flows, machines.2, machines.1⟩
  | failed machines => exact .some ⟨.failed _, machines.2, machines.1⟩
  | unfinished => exact .none
  | stopped short => exact short.elim

namespace Session

variable {first second : String} {tokens others : List Token}

/-- Texts with the same tokens at other places run alike: with the same allowance of rounds, both
are still under way or both have ended, and they have printed the same, ended alike, and left the
same bindings, but for the positions of names. -/
theorem run_twins (scanned : tokenize first = .ok tokens) (scanned' : tokenize second = .ok others)
    (alike : Grammar.ParsedAlike tokens others (Grammar.parse tokens) (Grammar.parse others))
    (limits : Limits) (rounds : Nat) {environment : Environment} (rooted : 0 < environment.depth) :
    Option.Rel (Transcript.Twin tokens others) (run rounds limits first environment)
      (run rounds limits second environment) := by
  rw [← read_of_tokenize scanned, ← read_of_tokenize scanned'] at alike
  generalize reads : read first = outcome at alike
  generalize reads' : read second = outcome' at alike
  cases alike with
  | parsed twins =>
      rw [run_of_read reads, run_of_read reads']
      exact (Evaluation.evaluate_twins limits rounds twins rooted).twin
  | refused expected found among =>
      unfold run
      rw [reads, reads']
      exact .some ⟨.refused expected found among, rfl, rfl⟩

/-- **Layout never matters.** The lexemes of a text may be written again with any blanks between
them, as long as there are some, and any blanks before and behind; they stand for the same tokens,
each where it is written.  And texts with the same tokens, wherever these stand, are parsed alike
and run alike. -/
theorem layout_irrelevant :
    (∀ (text : String) (pieces : List (String × Token)) (last : String) (marker : Token),
      tokenize text = .ok (pieces.map Prod.snd ++ [marker]) → Gaps pieces last →
      tokenize (spread pieces last)
          = .ok (placed 0 pieces ++ [.endAt (spread pieces last).utf8ByteSize])
        ∧ List.Forall₂ Token.Twin (pieces.map Prod.snd) (placed 0 pieces))
    ∧ ∀ (first second : String) (tokens others : List Token), tokenize first = .ok tokens →
      tokenize second = .ok others → List.Forall₂ Token.Twin tokens others →
      Grammar.ParsedAlike tokens others (Grammar.parse tokens) (Grammar.parse others)
      ∧ ∀ (limits : Limits) (rounds : Nat) (environment : Environment), 0 < environment.depth →
        Option.Rel (Transcript.Twin tokens others) (run rounds limits first environment)
          (run rounds limits second environment) := by
  constructor
  · intro text pieces last marker scanned gaps
    exact ⟨tokenize_spread scanned gaps, placed_twins pieces 0⟩
  · intro first second tokens others scanned scanned' twins
    obtain ⟨taken, rfl, inner⟩ := tokenize_ok_iff.mp scanned
    have parsed := Grammar.parse_twins twins (abreast_of_twins inner.unmarked rfl twins)
    exact ⟨parsed, fun limits rounds _ rooted =>
      run_twins scanned scanned' parsed limits rounds rooted⟩

/-- The lexemes of `f=function(n){n};f` with blanks around them. -/
def spacedPieces : List (String × Token) :=
  [("\t", ⟨.name, "f", 0⟩), (" ", ⟨.symbol .equal, "=", 1⟩),
    ("\n\n", ⟨.keyword .functionWord, "function", 2⟩), ("\u3000", ⟨.symbol .leftParen, "(", 10⟩),
    (" ", ⟨.name, "n", 11⟩), (" ", ⟨.symbol .rightParen, ")", 12⟩),
    (" ", ⟨.symbol .leftBrace, Symbol.leftBrace.spelling, 13⟩), (" ", ⟨.name, "n", 14⟩),
    (" ", ⟨.symbol .rightBrace, Symbol.rightBrace.spelling, 15⟩),
    ("\r\n", ⟨.symbol .semicolon, ";", 16⟩), (" ", ⟨.name, "f", 17⟩)]

theorem layout_irrelevant_function :
    ∃ tokens, tokenize (spread spacedPieces " ") = .ok tokens
      ∧ tokenize "f=function(n)\x7bn\x7d;f" = .ok (spacedPieces.map Prod.snd ++ [.endAt 18])
      ∧ Option.Rel (Transcript.Twin (spacedPieces.map Prod.snd ++ [.endAt 18]) tokens)
        (run 9 .default "f=function(n)\x7bn\x7d;f" .new)
        (run 9 .default (spread spacedPieces " ") .new) := by
  have scanned : tokenize "f=function(n)\x7bn\x7d;f"
      = .ok (spacedPieces.map Prod.snd ++ [.endAt 18]) := by rfl
  have blank : spacedPieces.all (fun piece => piece.1.toList.all Text.isBlank) = true := by rfl
  have gaps : Gaps spacedPieces " " :=
    ⟨fun piece among => List.all_eq_true.mp (List.all_eq_true.mp blank piece among),
      List.all_eq_true.mp (by rfl : " ".toList.all Text.isBlank = true), by decide⟩
  obtain ⟨spaced, twins⟩ := layout_irrelevant.1 _ spacedPieces " " _ scanned gaps
  have alike := layout_irrelevant.2 _ _ _ _ scanned spaced
    (List.rel_append twins (.cons ⟨rfl, rfl⟩ .nil))
  exact ⟨_, spaced, scanned, alike.2 .default 9 .new Nat.one_pos⟩

end Session

end Scriptlet
