/-
# Proofs.Watching -- evaluations under watch

`evaluateWatched` evaluates a tree as `evaluate` does, and whenever it turns to a node, the tree
itself or one inside it or the body of a function that is called, it first looks at the node and
at the machine as it is then.  If something is wrong with them it fails with an alarm.  Nothing in
an evaluator catches a failure, so if the watched evaluation does what the plain one does, whatever
the alarm, then nothing was wrong at any of these moments.

Two kinds of watches find nothing wrong: those that look for a `Machine.Invariant`, which printing,
assigning and entering a call keep (`evaluateWatched_of_invariant`), and those that look for what
holds throughout the tree and all functions in scopes (`evaluateWatched_of_throughout`).
-/
import Scriptlet.Proofs.Confinement

namespace Scriptlet

set_option autoImplicit false

/-! ## Runs that do the same on some machines -/

namespace Run

variable {α β : Type}

/-- The second run does what the first one does on machines of which something holds, and that
holds of the machine afterwards. -/
structure SameWhile (holds : Machine → Prop) (run other : Run α) : Prop where
  same : ∀ machine, holds machine → other machine = run machine
  keeps : run.Keeps fun before after => holds before → holds after

namespace SameWhile

variable {holds : Machine → Prop}

theorem self {run : Run α} (keeps : run.Keeps fun before after => holds before → holds after) :
    run.SameWhile holds run := ⟨fun _ _ => rfl, keeps⟩

theorem bind {first first' : Run α} {next next' : α → Run β} (firsts : first.SameWhile holds first')
    (nexts : ∀ result, (next result).SameWhile holds (next' result)) :
    (first >>= next).SameWhile holds (first' >>= next') := by
  refine ⟨fun machine here => ?_, .bind (fun left right held => right (left held)) firsts.keeps
    fun result => (nexts result).keeps⟩
  have kept := firsts.keeps machine
  show Run.bind first' next' machine = Run.bind first next machine
  unfold Run.bind
  rw [firsts.same machine here]
  cases outcome : first machine with
  | done result after =>
      rw [outcome] at kept
      exact (nexts result).same after (kept after rfl here)
  | failed error after => rfl
  | unfinished => rfl

end SameWhile

end Run

namespace Evaluation

open Machine Run

/-! ## Watched evaluation -/

/-- Evaluates a node, and fails with an alarm if the watch finds something wrong as the evaluation
of a node begins. -/
def evaluateWatched (watch : Node → Machine → Bool) (alarm : RuntimeError) (limits : Limits) :
    Nat → Node → Run Flow
  | 0, _ => unfinished
  | rounds + 1, node => fun machine =>
      if watch node machine then
        step (evaluateWatched watch alarm limits rounds) limits rounds node machine
      else .failed alarm machine

variable {watch : Node → Machine → Bool} {alarm : RuntimeError} {limits : Limits} {rounds : Nat}
  {node : Node} {machine : Machine}

example : evaluateWatched (fun _ machine => machine.depth = 0) .sinkFull .default 9
    (.call (.function [] .null) []) (.start .new)
      = .failed .sinkFull (.start .new) := rfl

theorem evaluateWatched_passing (passes : watch node machine = true) :
    evaluateWatched watch alarm limits (rounds + 1) node machine
      = step (evaluateWatched watch alarm limits rounds) limits rounds node machine :=
  if_pos passes

/-! ## Invariants of machines -/

/-- What holds only of machines with a root scope, and goes on to hold when something is printed,
when a name is assigned, and inside a call that is within the limit.  It then holds after the call,
which leaves nothing behind but what it has printed. -/
structure Invariant (limits : Limits) (holds : Machine → Prop) : Prop where
  rooted : ∀ {machine}, holds machine → 0 < machine.environment.depth
  print : ∀ {machine} text, holds machine → holds { machine with printed := text }
  assign : ∀ {machine} name value, holds machine →
    holds { machine with environment := machine.environment.assign name value }
  enter : ∀ {machine} parameters arguments, holds machine → machine.depth < limits.calls →
    holds (enterCall parameters arguments machine)

namespace Invariant

variable {holds : Machine → Prop} (invariant : Invariant limits holds)
include invariant

theorem congruence : Congruence limits limits (SameWhile holds) where
  pure result := .self (.pure (fun _ => id) result)
  fail error := .self (.fail (fun _ => id) error)
  unfinished := .self .unfinished
  bind := .bind
  lookup name := .self (.lookup (fun _ => id) name)
  write pieces := .self <| .write (fun _ => id) (fun left right held => right (left held))
    (fun _ _ => invariant.print _) limits.sink pieces

/-- Bodies are run on machines of which the invariant holds, and calls leave it as it was. -/
theorem call_same {nested other : Node → Run Flow}
    (keeps : ∀ node, (nested node).Keeps KeptIfRooted)
    (runs : ∀ node, (nested node).SameWhile holds (other node)) (parameters : List Name)
    (body : Node) (arguments : List Value) :
    (call nested limits parameters body arguments).SameWhile holds
      (call other limits parameters body arguments) := by
  constructor
  · intro machine here
    unfold call
    split
    · rfl
    · split
      · rfl
      · rename_i shallow
        have inside := invariant.enter parameters arguments here (Nat.lt_of_not_le shallow)
        rw [(runs body).same _ inside]
  · intro machine after ended here
    have restored := call_restores keeps limits parameters body arguments machine after ended
    rw [restored (invariant.rooted here)]
    exact invariant.print _ here

end Invariant

/-- **A watch for an invariant finds nothing wrong** in any evaluation that begins with it. -/
theorem evaluateWatched_of_invariant {holds : Machine → Prop} (invariant : Invariant limits holds)
    (passes : ∀ node machine, holds machine → watch node machine = true) (here : holds machine) :
    evaluateWatched watch alarm limits rounds node machine
      = evaluate limits rounds node machine := by
  have runs (node : Node) : (evaluate limits rounds node).SameWhile holds
      (evaluateWatched watch alarm limits rounds node) := by
    induction rounds generalizing node with
    | zero => exact .self .unfinished
    | succ rounds ih =>
        have stepped : (step (evaluate limits rounds) limits rounds node).SameWhile holds
            (step (evaluateWatched watch alarm limits rounds) limits rounds node) := by
          refine invariant.congruence.step _ _
            (invariant.call_same (evaluate_keeps limits rounds) ih) (fun child _ => ih child) ?_
          intro target inner value _
          exact .self (.assign target.text (fun _ _ => invariant.assign _ _) value)
        refine ⟨fun machine here => ?_, stepped.keeps⟩
        rw [evaluateWatched_passing (passes node machine here)]
        exact stepped.same machine here
  exact (runs node).same machine here

/-! ## Trees of a kind -/

/-- **A watch for trees of a kind finds nothing wrong** if it holds throughout the tree and all
functions in scopes that they are. -/
theorem evaluateWatched_of_throughout {holds : Node → Prop}
    (passes : ∀ node machine, node.Throughout holds → watch node machine = true)
    (within : node.Throughout holds) (confined : machine.Confined holds) :
    evaluateWatched watch alarm limits rounds node machine
      = evaluate limits rounds node machine := by
  induction rounds generalizing node machine with
  | zero => rfl
  | succ rounds ih =>
      have runs : (Likeness.confined holds limits False).Nested (evaluate limits rounds)
          (evaluateWatched watch alarm limits rounds) := nested_of_eq_evaluate ih
      rw [evaluateWatched_passing (passes node machine within)]
      exact (step_confined runs within.program confined).1

end Evaluation

end Scriptlet
