/-
# Proofs.CallLimits -- what a higher limit on calls changes

A limit on calls does nothing but end a run that meets it.  Two evaluations of one tree on one
machine, under limits of which the second is the higher one, do the same until the first one is
refused a call.  If that never happens they have the same outcome.  If it does, the second one
goes on where the first one fails, and all it can do with what has been printed is print more
(`Run.Outlives`, `evaluate_higher`).
-/
import Scriptlet.Proofs.Confinement

namespace Scriptlet

set_option autoImplicit false

/-! ## Printing on -/

/-- What the first machine has printed is the beginning of what the second one has. -/
def Machine.PrintsOn (before after : Machine) : Prop :=
  ∃ more, after.printed = before.printed ++ more

namespace Machine.PrintsOn

variable {before middle after : Machine}

theorem refl (machine : Machine) : machine.PrintsOn machine := ⟨"", by simp⟩

theorem trans (first : before.PrintsOn middle) (second : middle.PrintsOn after) :
    before.PrintsOn after := by
  obtain ⟨more, printed⟩ := first
  obtain ⟨others, further⟩ := second
  exact ⟨more ++ others, by rw [further, printed, String.append_assoc]⟩

theorem print (machine : Machine) (piece : String) :
    machine.PrintsOn { machine with printed := machine.printed ++ piece } := ⟨piece, rfl⟩

end Machine.PrintsOn

/-! ## Runs that outlive others -/

namespace Outcome

variable {α : Type}

/-- The second outcome is the first one, or the first run has failed at its limit on calls and
the second one, if it ends, has printed on. -/
inductive Outlived (limit : Nat) : Outcome α → Outcome α → Prop where
  | same (outcome : Outcome α) : Outlived limit outcome outcome
  | refused {after : Machine} {outcome : Outcome α} :
      (∀ later, outcome.machine? = some later → after.PrintsOn later) →
      Outlived limit (.failed (.recursionLimit limit) after) outcome

/-- A run that does not fail at its limit has the outcome of the run that outlives it. -/
theorem Outlived.eq {limit : Nat} {outcome other : Outcome α}
    (outlived : outcome.Outlived limit other)
    (unrefused : ∀ after, outcome ≠ .failed (.recursionLimit limit) after) : other = outcome := by
  cases outlived with
  | same => rfl
  | @refused after => exact absurd rfl (unrefused after)

end Outcome

namespace Run

variable {α β : Type} {limit : Nat}

/-- The second run does what the first one does, and goes on where that one fails at its limit on
calls. -/
structure Outlives (limit : Nat) (run other : Run α) : Prop where
  outlived : ∀ machine, (run machine).Outlived limit (other machine)
  prints : other.Keeps Machine.PrintsOn

namespace Outlives

theorem self {run : Run α} (prints : run.Keeps Machine.PrintsOn) : run.Outlives limit run :=
  ⟨fun machine => .same (run machine), prints⟩

theorem bind {first first' : Run α} {next next' : α → Run β} (firsts : first.Outlives limit first')
    (nexts : ∀ result, (next result).Outlives limit (next' result)) :
    (first >>= next).Outlives limit (first' >>= next') := by
  refine ⟨fun machine => ?_, .bind .trans firsts.prints fun result => (nexts result).prints⟩
  have outlived := firsts.outlived machine
  show (Run.bind first next machine).Outlived limit (Run.bind first' next' machine)
  unfold Run.bind
  generalize first machine = outcome at outlived
  generalize first' machine = outcome' at outlived
  cases outlived with
  | same =>
      cases outcome with
      | done result after => exact (nexts result).outlived after
      | failed | unfinished => exact .same _
  | @refused after _ further =>
      refine .refused fun later ended => ?_
      cases outcome' with
      | done result middle =>
          exact (further middle rfl).trans ((nexts result).prints middle later ended)
      | failed error middle => exact further later ended
      | unfinished => cases ended

end Outlives

end Run

/-! ## Evaluations -/

namespace Evaluation

open Run Machine

variable {sink : Sink} {calls more : Nat}

theorem congruence_outlives (sink : Sink) (calls more : Nat) :
    Congruence ⟨calls, sink⟩ ⟨more, sink⟩ (Outlives calls) where
  pure result := .self (.pure .refl result)
  fail error := .self (.fail .refl error)
  unfinished := .self .unfinished
  bind := .bind
  lookup name := .self (.lookup .refl name)
  write pieces := .self (.write .refl .trans .print sink pieces)

section

variable {nested other : Node → Run Flow}

theorem call_prints (prints : ∀ node, (other node).Keeps PrintsOn) (limits : Limits)
    (parameters : List Name) (body : Node) (arguments : List Value) :
    (call other limits parameters body arguments).Keeps PrintsOn := by
  intro machine after ended
  rcases machine_of_call ended with rfl | ⟨inner, body_ended, rfl⟩
  · exact .refl _
  · exact prints body (enterCall parameters arguments machine) inner body_ended

/-- The call that the lower limit refuses is the one place where the runs part. -/
theorem call_outlives (le : calls ≤ more) (runs : ∀ node, (nested node).Outlives calls (other node))
    (parameters : List Name) (body : Node) (arguments : List Value) :
    (call nested ⟨calls, sink⟩ parameters body arguments).Outlives calls
      (call other ⟨more, sink⟩ parameters body arguments) := by
  have prints := call_prints (fun node => (runs node).prints) ⟨more, sink⟩ parameters body
    arguments
  refine ⟨fun machine => ?_, prints⟩
  by_cases deep : calls ≤ machine.depth
  · by_cases fits : parameters.length = arguments.length
    · have refused : call nested ⟨calls, sink⟩ parameters body arguments machine
          = .failed (.recursionLimit calls) machine := by
        simp [call, fits, deep]
      rw [refused]
      exact .refused (prints machine)
    · simp only [call, fits, ne_eq, not_false_eq_true, if_true]
      exact .same _
  · have shallow : ¬ more ≤ machine.depth := fun deeper => deep (Nat.le_trans le deeper)
    have bodies := (runs body).outlived (enterCall parameters arguments machine)
    simp only [call, deep, shallow, if_false]
    split
    · exact .same _
    · generalize nested body (enterCall parameters arguments machine) = outcome at bodies
      generalize other body (enterCall parameters arguments machine) = outcome' at bodies
      cases bodies with
      | same => exact .same _
      | refused further =>
          refine .refused fun later ended => ?_
          cases outcome' with
          | done flow inner | failed error inner =>
              obtain rfl := Option.some.inj ended
              exact further inner rfl
          | unfinished => cases ended

end

/-- Under a higher limit an evaluation outlives itself, by induction on the rounds. -/
theorem evaluate_outlives (sink : Sink) (le : calls ≤ more) (rounds : Nat) (tree : Node) :
    (evaluate ⟨calls, sink⟩ rounds tree).Outlives calls (evaluate ⟨more, sink⟩ rounds tree) := by
  induction rounds generalizing tree with
  | zero => exact .self .unfinished
  | succ rounds ih =>
      refine (congruence_outlives sink calls more).step _ _ (call_outlives le ih)
        (fun child _ => ih child) fun target inner value _ => ?_
      exact .self (.assign target.text (fun machine _ => .refl machine) value)

/-- **A higher limit on calls only lets a run go on.**  A run that is not refused a call ends under
a higher limit with the same flow or error, the same output and the same environment, or is
unfinished under both.  One that is refused a call has printed the beginning of what it prints
under the higher limit, if it ends there. -/
theorem evaluate_higher {tree : Node} {machine : Machine} (le : calls ≤ more)
    (rooted : 0 < machine.environment.depth) :
    (∀ rounds, (∀ after, evaluate ⟨calls, sink⟩ rounds tree machine
        ≠ .failed (.recursionLimit calls) after) →
      evaluate ⟨more, sink⟩ rounds tree machine = evaluate ⟨calls, sink⟩ rounds tree machine)
    ∧ ∀ rounds others after later,
      evaluate ⟨calls, sink⟩ rounds tree machine = .failed (.recursionLimit calls) after →
      (evaluate ⟨more, sink⟩ others tree machine).machine? = some later →
      ∃ rest, later.printed = after.printed ++ rest := by
  refine ⟨fun rounds => ((evaluate_outlives sink le rounds tree).outlived machine).eq, ?_⟩
  intro rounds others after later failed ended
  -- With the larger allowance of rounds for both, one step of the comparison is enough.
  have refused : evaluate ⟨calls, sink⟩ (max rounds others) tree machine
      = .failed (.recursionLimit calls) after := by
    rw [evaluate_more (Nat.le_max_left rounds others) rooted (by rw [failed]; nofun), failed]
  have further : (evaluate ⟨more, sink⟩ (max rounds others) tree machine).machine?
      = some later := by
    rw [evaluate_more (Nat.le_max_right rounds others) rooted ?_, ended]
    intro short
    rw [short] at ended
    cases ended
  have outlived := (evaluate_outlives sink le (max rounds others) tree).outlived machine
  rw [refused] at outlived
  generalize evaluate ⟨more, sink⟩ (max rounds others) tree machine = outcome at outlived further
  cases outlived with
  | same =>
      obtain rfl := Option.some.inj further
      exact PrintsOn.refl after
  | refused prints => exact prints later further

namespace Sample

/-- A function that prints a number and calls itself with the next lower one, down to zero. -/
def counting : Value := .function [.ofText "n"] (.block [.print (some (.identifier (.ofText "n"))),
  .branch (.identifier (.ofText "n")) (.call (.identifier (.ofText "f"))
    [.binary .minus (.identifier (.ofText "n")) (.integer 1)]) none])

def countdown : Node := .program [.call (.identifier (.ofText "f")) [.integer 2]]

def counter : Machine := .start (.ofBindings [("f", counting)])

end Sample

/-- A countdown that takes three calls, under limits of two, three and nine. -/
theorem evaluate_higher_countdown : ∃ after later,
    evaluate ⟨2, .endless⟩ 20 Sample.countdown Sample.counter = .failed (.recursionLimit 2) after
      ∧ evaluate ⟨3, .endless⟩ 30 Sample.countdown Sample.counter = .done (.value .null) later
      ∧ after.printed = "2\n1\n" ∧ (∃ rest, later.printed = after.printed ++ rest)
      ∧ evaluate ⟨9, .endless⟩ 30 Sample.countdown Sample.counter
        = .done (.value .null) later := by
  have rooted : 0 < Sample.counter.environment.depth := Nat.one_pos
  have refused : evaluate ⟨2, .endless⟩ 20 Sample.countdown Sample.counter
      = .failed (.recursionLimit 2) _ := rfl
  have ended : evaluate ⟨3, .endless⟩ 30 Sample.countdown Sample.counter
      = .done (.value .null) _ := rfl
  obtain ⟨-, prints⟩ := @evaluate_higher .endless 2 3 Sample.countdown _ (by decide) rooted
  obtain ⟨same, -⟩ := @evaluate_higher .endless 3 9 Sample.countdown _ (by decide) rooted
  refine ⟨_, _, refused, ended, rfl, ?_, ?_⟩
  · exact prints 20 30 _ _ refused (congrArg Outcome.machine? ended)
  · exact (same 30 fun after => by rw [ended]; nofun).trans ended

end Evaluation

end Scriptlet
