/-
# Proofs.Sessions -- what comes of running a text

A text that is no program is refused.  Any other one runs as its tree is evaluated
(`run_of_read`), and a larger allowance of rounds changes nothing once that has ended
(`run_more`).  So allowances need not be mentioned: a text `Runs` from an environment to a
transcript, and to one only (`Runs.unique`), and it does so if the allowance is `Enough`.
-/
import Scriptlet.Proofs.Confinement
import Scriptlet.Session

namespace Scriptlet

set_option autoImplicit false

/-- What is left behind by a text whose tree has been evaluated. -/
def Outcome.transcript? : Outcome Flow → Option Transcript
  | done flow after => some ⟨.finished flow, after.printed, after.environment⟩
  | failed error after => some ⟨.failed error, after.printed, after.environment⟩
  | unfinished => none

/-- All large allowances of rounds have the property. -/
def Enough (holds : Nat → Prop) : Prop := ∃ rounds, ∀ more, rounds ≤ more → holds more

namespace Enough

variable {first second holds : Nat → Prop}

theorem of_all (all : ∀ rounds, holds rounds) : Enough holds := ⟨0, fun more _ => all more⟩

theorem both (enough : Enough first) (also : Enough second)
    (follows : ∀ rounds, first rounds → second rounds → holds rounds) : Enough holds := by
  obtain ⟨rounds, firsts⟩ := enough
  obtain ⟨others, seconds⟩ := also
  refine ⟨max rounds others, fun more le => follows more (firsts more ?_) (seconds more ?_)⟩
  · exact Nat.le_trans (Nat.le_max_left _ _) le
  · exact Nat.le_trans (Nat.le_max_right _ _) le

theorem imp (enough : Enough first) (follows : ∀ rounds, first rounds → holds rounds) :
    Enough holds := by
  obtain ⟨rounds, firsts⟩ := enough
  exact ⟨rounds, fun more le => follows more (firsts more le)⟩

theorem some (enough : Enough holds) : ∃ rounds, holds rounds := by
  obtain ⟨rounds, all⟩ := enough
  exact ⟨rounds, all rounds (Nat.le_refl rounds)⟩

end Enough

namespace Session

open Evaluation

variable {text : String} {tree : Node} {environment : Environment} {limits : Limits}
  {rounds : Nat} {transcript : Transcript}

/-- A text is read by way of its tokens. -/
theorem read_of_tokenize {tokens : List Token} (scanned : tokenize text = .ok tokens) :
    read text = Grammar.parse tokens := by
  unfold read
  rw [scanned]
  rfl

theorem read_ok_iff : read text = .ok tree
    ↔ ∃ tokens, tokenize text = .ok tokens ∧ Grammar.parse tokens = .ok tree := by
  unfold read
  cases tokenize text with
  | error error => exact ⟨nofun, fun ⟨_, scanned, _⟩ => by cases scanned⟩
  | ok tokens =>
      constructor
      · exact fun parsed => ⟨tokens, rfl, parsed⟩
      · rintro ⟨_, scanned, parsed⟩
        cases scanned
        exact parsed

theorem run_of_read (reads : read text = .ok tree) :
    run rounds limits text environment
      = (evaluate limits rounds tree (.start environment)).transcript? := by
  unfold run
  rw [reads]
  simp only [runTree]
  cases evaluate limits rounds tree (.start environment) <;> rfl

theorem run_of_error {error : SyntaxError} (reads : read text = .error error) (rounds : Nat) :
    run rounds limits text environment = some ⟨.refused error, "", environment⟩ := by
  unfold run
  rw [reads]

/-- How a text runs: as the evaluation of its tree, if it has one. -/
theorem run_cases (ran : run rounds limits text environment = some transcript) :
    (∃ error, transcript = ⟨.refused error, "", environment⟩)
    ∨ ∃ tree, read text = .ok tree
      ∧ ((∃ flow after, evaluate limits rounds tree (.start environment) = .done flow after
          ∧ transcript = ⟨.finished flow, after.printed, after.environment⟩)
        ∨ ∃ error after, evaluate limits rounds tree (.start environment) = .failed error after
          ∧ transcript = ⟨.failed error, after.printed, after.environment⟩) := by
  cases reads : read text with
  | error error =>
      unfold run at ran
      rw [reads] at ran
      exact .inl ⟨error, (Option.some.inj ran).symm⟩
  | ok tree =>
      rw [run_of_read reads] at ran
      refine .inr ⟨tree, rfl, ?_⟩
      cases outcome : evaluate limits rounds tree (.start environment) with
      | done flow after =>
          rw [outcome] at ran
          exact .inl ⟨flow, after, rfl, (Option.some.inj ran).symm⟩
      | failed error after =>
          rw [outcome] at ran
          exact .inr ⟨error, after, rfl, (Option.some.inj ran).symm⟩
      | unfinished =>
          rw [outcome] at ran
          cases ran

/-- A text leaves as many scopes as there were. -/
theorem depth_of_run (rooted : 0 < environment.depth)
    (ran : run rounds limits text environment = some transcript) :
    transcript.environment.depth = environment.depth := by
  rcases run_cases ran with ⟨error, rfl⟩ | ⟨tree, -, ended⟩
  · rfl
  · have keeps := evaluate_keeps limits rounds tree (.start environment)
    rcases ended with ⟨flow, after, outcome, rfl⟩ | ⟨error, after, outcome, rfl⟩
    · exact (keeps after (congrArg Outcome.machine? outcome) rooted).environment.depth
    · exact (keeps after (congrArg Outcome.machine? outcome) rooted).environment.depth

/-- A text that has run to its end leaves the same behind with every larger allowance of rounds. -/
theorem run_more {more : Nat} (le : rounds ≤ more) (rooted : 0 < environment.depth)
    (ran : run rounds limits text environment = some transcript) :
    run more limits text environment = some transcript := by
  cases reads : read text with
  | error error =>
      unfold run at ran ⊢
      rw [reads] at ran ⊢
      exact ran
  | ok tree =>
      rw [run_of_read reads] at ran ⊢
      have ended : evaluate limits rounds tree (.start environment) ≠ .unfinished := by
        intro short
        rw [short] at ran
        cases ran
      rw [evaluate_more le rooted ended, ran]

/-- A text runs to its end, with some allowance of rounds, and leaves a transcript behind. -/
def Runs (limits : Limits) (text : String) (environment : Environment)
    (transcript : Transcript) : Prop :=
  ∃ rounds, run rounds limits text environment = some transcript

namespace Runs

theorem unique {other : Transcript} (rooted : 0 < environment.depth)
    (ran : Runs limits text environment transcript) (also : Runs limits text environment other) :
    transcript = other := by
  obtain ⟨rounds, ran⟩ := ran
  obtain ⟨others, also⟩ := also
  have both := run_more (Nat.le_max_left rounds others) rooted ran
  rw [run_more (Nat.le_max_right rounds others) rooted also] at both
  exact (Option.some.inj both).symm

/-- A text that runs does so with every allowance that is large enough. -/
theorem enough (rooted : 0 < environment.depth) (runs : Runs limits text environment transcript) :
    Enough fun rounds => run rounds limits text environment = some transcript := by
  obtain ⟨rounds, ran⟩ := runs
  exact ⟨rounds, fun _ le => run_more le rooted ran⟩

end Runs

end Session

end Scriptlet
