/-
# Proofs.Audit -- no session meets an operator that it does not know

The evaluator fails if an operator stands over operands of the wrong number.  No text is
read as such a tree, but that is not enough: a function is run long after its text was
read, and it may have been through scopes, arguments, lists and maps of many runs.

`evaluateAudited` runs a tree as `evaluate` does and looks through everything at hand as
each part of it begins and ends: the tree, all functions in the scopes, and all functions
in what the part yields.  Anything improper, and it fails with an alarm.  In a session that
was not given functions from outside the alarm is never raised (`evaluateAudited_eq`), and
where an audited run goes through, every operator fits.
-/
import Mathlib
import Scriptlet.Proofs.Confinement
import Scriptlet.Proofs.Endings
import Scriptlet.Proofs.Sessions

namespace Scriptlet

set_option autoImplicit false

/-! ## What is looked at -/

/-- The nodes that can stand inside a program. -/
abbrev Node.IsProper (node : Node) : Prop := node.isProper = true

/-- Whether what an evaluation leaves behind is proper in all its functions. -/
def Outcome.isSound : Outcome Flow → Bool
  | done flow after =>
      flow.carried.Throughout Node.IsProper ∧ after.environment.Throughout Node.IsProper
  | failed _ after => after.environment.Throughout Node.IsProper
  | unfinished => true

theorem Node.operatorFits_of_proper {node : Node} (proper : node.ThroughoutProgram IsProper) :
    node.operatorFits = true := by
  cases node with
  | binary | unary => exact proper.here
  | _ => rfl

namespace Evaluation

open Node Run Machine

variable (alarm : RuntimeError) (limits : Limits)

/-- Evaluates a node, and fails with the alarm if anything improper is at hand as the evaluation
of a node begins or ends. -/
def evaluateAudited : Nat → Node → Run Flow
  | 0, _ => unfinished
  | rounds + 1, node => fun machine =>
      if node.ThroughoutProgram IsProper ∧ machine.environment.Throughout IsProper then
        let outcome := step (evaluateAudited rounds) limits rounds node machine
        if outcome.isSound then outcome else .failed alarm machine
      else .failed alarm machine

/-! ## Audited runs -/

/-- No audited run fails for want of an operator, on whatever machine: every node has been
looked at. -/
theorem evaluateAudited_fails (known : alarm.Known) (rounds : Nat) (node : Node) :
    (evaluateAudited alarm limits rounds node).FailsKnown := by
  induction rounds generalizing node with
  | zero => exact .unfinished
  | succ rounds ih =>
      intro machine error after ended
      unfold evaluateAudited at ended
      split at ended
      · rename_i proper
        dsimp only at ended
        split at ended
        · exact step_fails ih (operatorFits_of_proper proper.1) machine error after ended
        · cases ended
          exact known
      · cases ended
        exact known

variable {alarm limits} {rounds : Nat} {node : Node} {machine : Machine}

/-- **The alarm is never raised** if everything at hand in the beginning is proper. -/
theorem evaluateAudited_eq (proper : node.ThroughoutProgram IsProper)
    (confined : machine.Confined IsProper) :
    evaluateAudited alarm limits rounds node machine = evaluate limits rounds node machine := by
  refine eq_evaluate (fun _ => rfl) (fun proper confined left => ?_) proper confined
  rename_i rounds node machine
  have passes :
      (step (evaluateAudited alarm limits rounds) limits rounds node machine).isSound = true := by
    cases outcome : step (evaluateAudited alarm limits rounds) limits rounds node machine with
    | done flow after =>
        rw [outcome] at left
        exact decide_eq_true ⟨left.flows flow after rfl, (left.machines after rfl).within⟩
    | failed error after =>
        rw [outcome] at left
        exact decide_eq_true (left.machines after rfl).within
    | unfinished => rfl
  simp only [evaluateAudited, passes, if_true]
  exact if_pos ⟨proper, confined.within⟩

example (before : Machine) :
    evaluateAudited .divisionByZero .default 2 (.unary .plus .null) before
      = .failed .divisionByZero before := rfl

/-- A proper tree does not fail for want of an operator. -/
theorem evaluate_known (proper : node.ThroughoutProgram IsProper)
    (confined : machine.Confined IsProper) {error : RuntimeError} {after : Machine}
    (failed : evaluate limits rounds node machine = .failed error after) : error.Known := by
  have known : RuntimeError.divisionByZero.Known := nofun
  have audited : evaluateAudited .divisionByZero limits rounds node machine = .failed error after :=
    (evaluateAudited_eq proper confined).trans failed
  exact evaluateAudited_fails _ limits known rounds node machine error after audited

end Evaluation

/-! ## Sessions -/

namespace Session

open Evaluation Node

/-- The environments of sessions whose functions are all their own: what they started from held
none. -/
inductive Own : Environment → Prop where
  | start {bindings : List (String × Value)} :
      (∀ binding ∈ bindings, binding.2.functions = []) → Own (.ofBindings bindings)
  | run {environment : Environment} {rounds : Nat} {limits : Limits} {text : String}
      {transcript : Transcript} :
      Own environment → Session.run rounds limits text environment = some transcript →
      Own transcript.environment

theorem proper_of_parse {tokens : List Token} {tree : Node}
    (parsed : Grammar.parse tokens = .ok tree) :
    ∃ body, tree = .program body ∧ ∀ statement ∈ body, statement.Throughout IsProper := by
  obtain ⟨body, rfl, built⟩ := Grammar.built_of_parse parsed
  exact ⟨body, rfl, fun statement among => (built statement among).imp fun _ => Built.proper⟩

theorem proper_of_read {text : String} {tree : Node} (read : Session.read text = .ok tree) :
    tree.ThroughoutProgram IsProper := by
  obtain ⟨tokens, -, parsed⟩ := read_ok_iff.mp read
  obtain ⟨body, rfl, proper⟩ := proper_of_parse parsed
  exact proper

variable {environment : Environment} {rounds : Nat} {limits : Limits} {text : String}
  {transcript : Transcript}

/-- Step after step, all functions in the scopes of a session stay proper. -/
theorem Own.confined (own : Own environment) :
    (Machine.start environment).Confined IsProper := by
  induction own with
  | start plain =>
      exact ⟨Nat.one_pos, .ofBindings fun binding among =>
        Value.throughout_of_functions_eq_nil (plain binding among)⟩
  | @run environment rounds limits text transcript _ ran ih =>
      rcases run_cases ran with ⟨error, rfl⟩ | ⟨tree, read, ended⟩
      · exact ih
      · have left : (evaluate limits rounds tree (.start environment)).Confined IsProper :=
          evaluate_confined (proper_of_read read) ih
        rcases ended with ⟨flow, after, outcome, rfl⟩ | ⟨error, after, outcome, rfl⟩
        · have confined := left.machines after (by rw [outcome]; rfl)
          exact ⟨confined.rooted, confined.within⟩
        · have confined := left.machines after (by rw [outcome]; rfl)
          exact ⟨confined.rooted, confined.within⟩

/-- **No session meets an operator that it does not know**, unless it was given a function from
outside.  Every text is read as a program whose parts are proper, none of them a program; all
functions in the scopes are; the audit finds nothing else anywhere in the run of any text,
finished or not; and no run ends with an unknown operator. -/
theorem own_session_proper (own : Own environment) (limits : Limits) (rounds : Nat) :
    (∀ tokens tree, Grammar.parse tokens = .ok tree →
      ∃ body, tree = .program body ∧ ∀ statement ∈ body, statement.Throughout IsProper)
    ∧ environment.Throughout IsProper
    ∧ (∀ text tree alarm, Session.read text = .ok tree →
      evaluateAudited alarm limits rounds tree (.start environment)
        = evaluate limits rounds tree (.start environment))
    ∧ ∀ text transcript operator, Session.run rounds limits text environment = some transcript →
      transcript.ending ≠ .failed (.unknownOperator operator) := by
  refine ⟨fun tokens tree => proper_of_parse, own.confined.within, ?_, ?_⟩
  · intro text tree alarm read
    exact evaluateAudited_eq (proper_of_read read) own.confined
  · intro text transcript operator ran failed
    rcases run_cases ran with ⟨error, rfl⟩ | ⟨tree, read, ended⟩
    · cases failed
    · rcases ended with ⟨flow, after, outcome, rfl⟩ | ⟨error, after, outcome, rfl⟩
      · cases failed
      · cases failed
        exact evaluate_known (proper_of_read read) own.confined outcome operator rfl

namespace Sample

/-- A function in a list that is bound to a name. -/
def keeping : Node := .program [.assign ⟨"f", some 0⟩ (.list [.function [⟨"x", some 14⟩]
  (.block [.result (some (.unary .not (.identifier ⟨"x", some 27⟩)))])])]

/-- A call of the function in the list. -/
def calling : Node := .program [.print (some (.call
  (.index (.identifier ⟨"f", some 6⟩) (some (.integer 0))) [.identifier ⟨"f", some 11⟩]))]

end Sample

/-- A function that is read from one text, kept in a list, and called in the next text. -/
theorem own_session_proper_kept :
    ∃ first second,
      Session.run 20 .default "f = [function(x) \x7b return !x \x7d]" .new = some first
      ∧ Session.run 20 .default "print(f[0](f))" first.environment = some second
      ∧ second.printed = "false\n"
      ∧ first.environment.Throughout IsProper
      ∧ ∀ operator, second.ending ≠ .failed (.unknownOperator operator) := by
  have reads : read "f = [function(x) \x7b return !x \x7d]" = .ok Sample.keeping :=
    read_ok_iff.mpr ⟨_, by cbv, by rfl⟩
  have reads' : read "print(f[0](f))" = .ok Sample.calling :=
    read_ok_iff.mpr ⟨_, by cbv, by rfl⟩
  obtain ⟨first, second, ran, also, printed⟩ : ∃ first second,
      (evaluate .default 20 Sample.keeping (.start .new)).transcript? = some first
      ∧ (evaluate .default 20 Sample.calling (.start first.environment)).transcript? = some second
      ∧ second.printed = "false\n" := ⟨_, _, by cbv, by cbv, by rfl⟩
  rw [← run_of_read reads] at ran
  rw [← run_of_read reads'] at also
  have own : Own first.environment := .run (.start (by simp)) ran
  obtain ⟨-, within, -, fails⟩ := own_session_proper own .default 20
  exact ⟨first, second, ran, also, printed, within, fun operator => fails _ second operator also⟩

end Session

end Scriptlet
