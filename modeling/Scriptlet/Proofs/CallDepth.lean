/-
# Proofs.CallDepth -- scopes and active calls, counted together

Two counts go up and down during an evaluation: that of the scopes, which the environment keeps,
and that of the active calls, which the evaluator keeps.  They are `Machine.Accounted` for if the
first is ahead of the second by the scopes that there were in the beginning, and the second is
within the limit.  That is an invariant, so they are whenever the evaluation of a node begins
(`evaluate_accounted`), and no scope is ever opened beyond the limit.

A call that would go beyond it is refused.  The error then goes all the way up, so most calls that
fail with it have it from a node inside.  Those that raise it themselves are told apart by changing
the errors of the nodes inside (`Raises`): they are the calls of a function with arguments that are
evaluated, as many as it takes, when the limit is reached (`raises_recursionLimit_iff`).
-/
import Scriptlet.Proofs.Watching

namespace Scriptlet

set_option autoImplicit false

/-! ## Errors changed -/

namespace Run

variable {α β : Type} (change : RuntimeError → RuntimeError)

/-- A run with its errors changed. -/
def changed (run : Run α) : Run α := fun machine =>
  match run machine with
  | .done result after => .done result after
  | .failed error after => .failed (change error) after
  | .unfinished => .unfinished

variable {change} {run : Run α} {machine after : Machine}

theorem changed_eq_done {result : α} :
    run.changed change machine = .done result after ↔ run machine = .done result after := by
  unfold changed
  cases run machine <;> simp

theorem changed_of_failed {error : RuntimeError}
    (failed : run.changed change machine = .failed error after) :
    ∃ inner, run machine = .failed inner after ∧ error = change inner := by
  unfold changed at failed
  split at failed
  · cases failed
  · rename_i inner later ran
    cases failed
    exact ⟨inner, ran, rfl⟩
  · cases failed

variable (change)

theorem changed_bind (first : Run α) (next : α → Run β) :
    (first >>= next).changed change
      = first.changed change >>= fun result => (next result).changed change := by
  funext machine
  show Run.changed change (Run.bind first next) machine = Run.bind (first.changed change) _ machine
  simp only [changed, Run.bind]
  cases first machine <;> rfl

end Run

/-- There are as many scopes as calls are active besides those that there were in the beginning,
and no more calls are active than may be. -/
def Machine.Accounted (scopes calls : Nat) (machine : Machine) : Prop :=
  machine.environment.depth = scopes + machine.depth ∧ machine.depth ≤ calls

instance (scopes calls : Nat) : DecidablePred (Machine.Accounted scopes calls) := fun machine =>
  inferInstanceAs (Decidable (machine.environment.depth = scopes + machine.depth ∧ _))

namespace Evaluation

open Machine Run

theorem valueOf_changed (change : RuntimeError → RuntimeError) (nested : Node → Run Flow)
    (node : Node) : valueOf (fun inner => (nested inner).changed change) node
      = (valueOf nested node).changed change :=
  (changed_bind change (nested node) fun flow => pure flow.carried).symm

theorem valuesOf_changed (change : RuntimeError → RuntimeError) (nested : Node → Run Flow)
    (nodes : List Node) : valuesOf (fun inner => (nested inner).changed change) nodes
      = (valuesOf nested nodes).changed change := by
  induction nodes with
  | nil => rfl
  | cons node rest ih =>
      simp only [valuesOf, valueOf_changed, ih, changed_bind]
      rfl

/-! ## Calls that are refused -/

/-- A node raises an error itself if it fails with that error whatever the errors are changed to
with which the nodes inside it fail, and the body of a function that it calls. -/
def Raises (nested : Node → Run Flow) (limits : Limits) (rounds : Nat) (node : Node)
    (machine : Machine) (error : RuntimeError) (after : Machine) : Prop :=
  ∀ change, step (fun inner => (nested inner).changed change) limits rounds node machine
    = .failed error after

/-- A call is ready to be made on the second machine: the callee is a function, all arguments have
been evaluated, and there are as many of them as the function has parameters. -/
def Prepared (nested : Node → Run Flow) (callee : Node) (arguments : List Node)
    (machine ready : Machine) : Prop :=
  ∃ parameters body values middle,
    valueOf nested callee machine = .done (.function parameters body) middle
      ∧ valuesOf nested arguments middle = .done values ready
      ∧ parameters.length = values.length

section

variable {nested : Node → Run Flow} {limits : Limits} {rounds : Nat} {callee : Node}
  {arguments : List Node} {machine after : Machine}

/-- A call that is ready when the limit is reached is refused, and it is left at that. -/
theorem raises_of_prepared (prepared : Prepared nested callee arguments machine after)
    (deep : limits.calls ≤ after.depth) :
    Raises nested limits rounds (.call callee arguments) machine (.recursionLimit limits.calls)
      after := by
  obtain ⟨parameters, body, values, middle, found, evaluated, fits⟩ := prepared
  intro change
  have callees : valueOf (fun inner => (nested inner).changed change) callee machine
      = .done (.function parameters body) middle := by
    rw [valueOf_changed]
    exact changed_eq_done.mpr found
  have operands : valuesOf (fun inner => (nested inner).changed change) arguments middle
      = .done values after := by
    rw [valuesOf_changed]
    exact changed_eq_done.mpr evaluated
  have refused : call (fun inner => (nested inner).changed change) limits parameters body values
      after = .failed (.recursionLimit limits.calls) after := by
    simp [call, fits, deep]
  exact bind_failed ((bind_done callees).trans ((bind_done operands).trans refused))

/-- The call of a function fails at the limit when it is reached, or if the body does. -/
theorem call_refused {parameters : List Name} {body : Node} {values : List Value} {n : Nat}
    (failed : call nested limits parameters body values machine
      = .failed (.recursionLimit n) after) :
    (n = limits.calls ∧ parameters.length = values.length ∧ limits.calls ≤ machine.depth
        ∧ after = machine)
      ∨ ∃ inner, nested body (enterCall parameters values machine)
        = .failed (.recursionLimit n) inner := by
  unfold call at failed
  split at failed
  · cases failed
  · rename_i fits
    split at failed
    · rename_i deep
      cases failed
      exact .inl ⟨rfl, Decidable.of_not_not fits, deep, rfl⟩
    · cases outcome : nested body (enterCall parameters values machine) with
      | done flow inner | unfinished =>
          simp only [outcome] at failed
          cases failed
      | failed error inner =>
          simp only [outcome] at failed
          cases failed
          exact .inr ⟨inner, rfl⟩

/-- **A call raises the error of the limit exactly if it is ready and the limit is reached.** -/
theorem raises_recursionLimit_iff {n : Nat} :
    Raises nested limits rounds (.call callee arguments) machine (.recursionLimit n) after
      ↔ n = limits.calls ∧ Prepared nested callee arguments machine after
        ∧ limits.calls ≤ after.depth := by
  constructor
  · intro raises
    -- All errors from inside are told apart from the one in question by changing them.
    have quiet {α : Type} {run : Run α} {machine after : Machine} :
        run.changed (fun _ => .sinkFull) machine ≠ .failed (.recursionLimit n) after := by
      intro failed
      obtain ⟨inner, -, impossible⟩ := changed_of_failed failed
      cases impossible
    have refused : callNode (fun inner => (nested inner).changed fun _ => .sinkFull) limits callee
        arguments machine = .failed (.recursionLimit n) after := by
      rcases failed_of_bind (raises fun _ => .sinkFull) with failed | ⟨_, _, _, impossible⟩
      · exact failed
      · cases impossible
    rcases failed_of_bind refused with failed | ⟨value, middle, found, failed⟩
    · rw [valueOf_changed] at failed
      exact absurd failed quiet
    rw [valueOf_changed, changed_eq_done] at found
    cases value with
    | function parameters body =>
        rcases failed_of_bind failed with failed | ⟨values, ready, evaluated, failed⟩
        · rw [valuesOf_changed] at failed
          exact absurd failed quiet
        rw [valuesOf_changed, changed_eq_done] at evaluated
        rcases call_refused failed with ⟨same, fits, deep, rfl⟩ | ⟨inner, failed⟩
        · exact ⟨same, ⟨parameters, body, values, middle, found, evaluated, fits⟩, deep⟩
        · exact absurd failed quiet
    | _ => cases failed
  · rintro ⟨rfl, prepared, deep⟩
    exact raises_of_prepared prepared deep

end

/-! ## Scopes and calls -/

variable {limits : Limits} {rounds : Nat} {scopes : Nat}

theorem depth_bindAll (environment : Environment) (names : List Name) (values : List Value) :
    (bindAll environment names values).depth = environment.depth :=
  (bindAll_kept environment names values).depth

/-- Entering a call opens a scope and counts the call, so neither count gets ahead. -/
theorem invariant_accounted (some : 0 < scopes) :
    Invariant limits (Accounted scopes limits.calls) where
  rooted held := by
    rw [held.1]
    exact Nat.add_pos_left some _
  print _ held := held
  assign name value held := ⟨(Environment.depth_assign _ name value).trans held.1, held.2⟩
  enter {machine} parameters arguments held shallow := by
    refine ⟨?_, shallow⟩
    have entered := depth_bindAll machine.environment.enter.2 parameters arguments
    rw [Environment.depth_enter, held.1] at entered
    exact entered.trans (Nat.add_assoc _ _ _)

/-- The callee and the arguments of a call are evaluated in the scope of the call. -/
theorem kept_of_prepared {callee : Node} {arguments : List Node} {machine ready : Machine}
    (rooted : 0 < machine.environment.depth)
    (prepared : Prepared (evaluate limits rounds) callee arguments machine ready) :
    machine.Kept ready := by
  obtain ⟨parameters, body, values, middle, found, evaluated, -⟩ := prepared
  have parts : Compositional limits limits fun run _ => run.Keeps KeptIfRooted :=
    (congruence_keeps .refl .trans .print limits).compositional
  have keeps := evaluate_keeps limits rounds
  have first : machine.KeptIfRooted middle := by
    have whole : (valueOf (evaluate limits rounds) callee).Keeps KeptIfRooted :=
      @Compositional.valueOf _ _ _ parts _ (evaluate limits rounds) callee (keeps callee)
    exact whole machine middle (congrArg Outcome.machine? found)
  have second : middle.KeptIfRooted ready := by
    have whole : (valuesOf (evaluate limits rounds) arguments).Keeps KeptIfRooted :=
      @Compositional.valuesOf _ _ _ parts _ (evaluate limits rounds) arguments fun argument _ =>
        keeps argument
    exact whole middle ready (congrArg Outcome.machine? evaluated)
  exact first.trans second rooted

/-- **Scopes and active calls are counted together.**  Whenever the evaluation of a node begins, in
a run from a fresh start, there are as many scopes as there were then and calls are active now, and
no more calls are active than may be: a watch for it raises no alarm.  A call raises the error of
the limit exactly if its callee is a function, its arguments have been evaluated, there are as many
as there are parameters, and as many calls are active as may be.  It then fails with the machine
that it had come to, and there are as many scopes as when it began. -/
theorem evaluate_accounted {tree : Node} {environment : Environment}
    (rooted : 0 < environment.depth) :
    (∀ alarm, evaluateWatched (fun _ machine => machine.Accounted environment.depth limits.calls)
        alarm limits rounds tree (.start environment)
      = evaluate limits rounds tree (.start environment))
    ∧ ∀ callee arguments (machine after : Machine) n,
      machine.Accounted environment.depth limits.calls →
      (Raises (evaluate limits rounds) limits rounds (.call callee arguments) machine
          (.recursionLimit n) after
        ↔ n = limits.calls ∧ Prepared (evaluate limits rounds) callee arguments machine after
          ∧ machine.depth = limits.calls)
      ∧ (Raises (evaluate limits rounds) limits rounds (.call callee arguments) machine
          (.recursionLimit n) after → after.environment.depth = machine.environment.depth) := by
  have invariant := @invariant_accounted limits environment.depth rooted
  refine ⟨fun alarm => ?_, fun callee arguments machine after n accounted => ⟨?_, fun raises => ?_⟩⟩
  · exact evaluateWatched_of_invariant invariant (fun _ _ held => decide_eq_true held)
      ⟨rfl, Nat.zero_le _⟩
  · rw [raises_recursionLimit_iff]
    refine and_congr_right fun _ => and_congr_right fun prepared => ?_
    have kept := kept_of_prepared (invariant.rooted accounted) prepared
    rw [kept.depth]
    exact ⟨Nat.le_antisymm accounted.2, fun deep => Nat.le_of_eq deep.symm⟩
  · obtain ⟨-, prepared, -⟩ := raises_recursionLimit_iff.mp raises
    exact (kept_of_prepared (invariant.rooted accounted) prepared).environment.depth

namespace Sample

/-- A function that calls itself. -/
def descent : Value := .function [] (.block [.call (.identifier (.ofText "f")) []])

def descend : Node := .call (.identifier (.ofText "f")) []

def ground : Environment := .ofBindings [("f", descent)]

/-- The machine after two calls of the function. -/
def below : Machine := enterCall [] [] (enterCall [] [] (.start ground))

end Sample

/-- A descent that may have two calls: it fails, no alarm is raised, and it is the third call that
raises the error. -/
theorem evaluate_accounted_descent :
    evaluate ⟨2, .endless⟩ 9 Sample.descend (.start Sample.ground)
        = .failed (.recursionLimit 2) (.start Sample.ground)
      ∧ evaluateWatched (fun _ machine => machine.Accounted 1 2) .sinkFull ⟨2, .endless⟩ 9
          Sample.descend (.start Sample.ground)
        = .failed (.recursionLimit 2) (.start Sample.ground)
      ∧ Raises (evaluate ⟨2, .endless⟩ 9) ⟨2, .endless⟩ 9 Sample.descend Sample.below
          (.recursionLimit 2) Sample.below
      ∧ ¬ Raises (evaluate ⟨2, .endless⟩ 9) ⟨2, .endless⟩ 9 Sample.descend (.start Sample.ground)
          (.recursionLimit 2) (.start Sample.ground) := by
  have rooted : 0 < Sample.ground.depth := Nat.one_pos
  have failed : evaluate ⟨2, .endless⟩ 9 Sample.descend (.start Sample.ground)
      = .failed (.recursionLimit 2) (.start Sample.ground) := rfl
  obtain ⟨watched, refused⟩ := @evaluate_accounted ⟨2, .endless⟩ 9 Sample.descend _ rooted
  refine ⟨failed, (watched .sinkFull).trans failed, ?_, fun raises => ?_⟩
  · exact (refused _ _ Sample.below _ 2 ⟨rfl, Nat.le_refl 2⟩).1.mpr
      ⟨rfl, ⟨_, _, _, _, rfl, rfl, rfl⟩, rfl⟩
  · obtain ⟨-, -, deep⟩ := (refused _ _ (.start Sample.ground) _ 2 ⟨rfl, Nat.zero_le _⟩).1.mp raises
    cases deep

end Evaluation

end Scriptlet
