/-
# Proofs.CallFrames -- an evaluation ends in the scope in which it began

Whatever a tree does, and however its evaluation ends, the scopes opened on the way
are left again and the count of active calls is back where it was.  Only the bindings
of the current scope may be different, and none of its names is unbound
(`evaluate_kept`).

`Run.Keeps` says that a run relates the machine before it to the machine after it,
whether it ends with a result or with an error.  For a relation that chains it follows
from what the parts of a run do, so that one lemma for each part of the evaluator is
enough; the only part with an argument of its own is the call.
-/
import Scriptlet.Proofs.Constructs
import Scriptlet.Proofs.Scopes

namespace Scriptlet

set_option autoImplicit false

/-! ## Runs that keep a relation -/

instance : LawfulMonad Run := .mk' Run
  (by
    intro α run
    funext machine
    show Run.bind run (Run.pure ∘ id) machine = run machine
    unfold Run.bind
    cases run machine <;> rfl)
  (fun _ _ => rfl)
  (by
    intro α β γ run next last
    funext machine
    show Run.bind (Run.bind run next) last machine
      = Run.bind run (fun result => Run.bind (next result) last) machine
    simp only [Run.bind]
    cases run machine <;> rfl)

/-- The machine that a run leaves behind, if it ends. -/
def Outcome.machine? {α : Type} : Outcome α → Option Machine
  | .done _ machine => some machine
  | .failed _ machine => some machine
  | .unfinished => none

namespace Run

variable {α β : Type}

/-- However the run ends, the machine after it is related to the one before. -/
def Keeps (related : Machine → Machine → Prop) (run : Run α) : Prop :=
  ∀ machine after, (run machine).machine? = some after → related machine after

namespace Keeps

variable {related : Machine → Machine → Prop}

theorem pure (refl : ∀ machine, related machine machine) (result : α) :
    Keeps related (Pure.pure result : Run α) := by
  intro machine after ended
  obtain rfl : machine = after := Option.some.inj ended
  exact refl machine

theorem fail (refl : ∀ machine, related machine machine) (error : RuntimeError) :
    Keeps related (Run.fail error : Run α) := by
  intro machine after ended
  obtain rfl : machine = after := Option.some.inj ended
  exact refl machine

theorem unfinished : Keeps related (Run.unfinished : Run α) := by
  intro machine after ended
  exact absurd ended (by simp [Run.unfinished, Outcome.machine?])

theorem bind (trans : ∀ {before middle after}, related before middle → related middle after →
      related before after) {first : Run α} {next : α → Run β} (keeps : Keeps related first)
    (nextKeeps : ∀ result, Keeps related (next result)) : Keeps related (first >>= next) := by
  intro machine after ended
  have first_ended := keeps machine
  change (Run.bind first next machine).machine? = some after at ended
  unfold Run.bind at ended
  cases outcome : first machine with
  | done result middle =>
      rw [outcome] at ended first_ended
      exact trans (first_ended middle rfl) (nextKeeps result middle after ended)
  | failed error middle =>
      rw [outcome] at ended first_ended
      exact first_ended after ended
  | unfinished =>
      rw [outcome] at ended
      cases ended

theorem lookup (refl : ∀ machine, related machine machine) (name : String) :
    Keeps related (Run.lookup name) := by
  intro machine after ended
  unfold Run.lookup at ended
  split at ended <;>
    obtain rfl : machine = after := Option.some.inj ended <;>
    exact refl machine

theorem assign (name : String)
    (assigns : ∀ machine value, related machine
      { machine with environment := machine.environment.assign name value }) (value : Value) :
    Keeps related (Run.assign name value) := by
  intro machine after ended
  obtain rfl := Option.some.inj ended
  exact assigns machine value

/-- Writing changes nothing but what is printed, also when the sink is full halfway. -/
theorem write (refl : ∀ machine, related machine machine)
    (trans : ∀ {before middle after}, related before middle → related middle after →
      related before after)
    (prints : ∀ (machine : Machine) piece, related machine
      { machine with printed := machine.printed ++ piece })
    (sink : Sink) (pieces : List String) : Keeps related (Run.write sink pieces) := by
  induction pieces with
  | nil => exact pure refl ()
  | cons piece rest ih =>
      intro machine after ended
      unfold Run.write at ended
      split at ended
      · obtain rfl : machine = after := Option.some.inj ended
        exact refl machine
      · exact trans (prints machine piece) (ih _ after ended)

end Keeps

end Run

/-! ## What evaluation leaves alone -/

/-- What an evaluation leaves alone: all that work in the current scope leaves alone, and
the number of active calls. -/
structure Machine.Kept (before after : Machine) : Prop where
  environment : before.environment.Kept after.environment
  depth : after.depth = before.depth

/-- The same of a machine with a root scope; without one there is nothing to go back to. -/
def Machine.KeptIfRooted (before after : Machine) : Prop :=
  0 < before.environment.depth → before.Kept after

namespace Machine.KeptIfRooted

variable {before middle after : Machine}

theorem refl (machine : Machine) : machine.KeptIfRooted machine :=
  fun _ => ⟨.refl _, rfl⟩

theorem trans (first : before.KeptIfRooted middle) (second : middle.KeptIfRooted after) :
    before.KeptIfRooted after := by
  intro rooted
  obtain ⟨environment, depth⟩ := first rooted
  have later := second (by rw [environment.depth]; exact rooted)
  exact ⟨environment.trans later.environment, later.depth.trans depth⟩

theorem assign (machine : Machine) (name : String) (value : Value) :
    machine.KeptIfRooted { machine with environment := machine.environment.assign name value } :=
  fun _ => ⟨.assign _ name value, rfl⟩

theorem print (machine : Machine) (piece : String) :
    machine.KeptIfRooted { machine with printed := machine.printed ++ piece } :=
  fun _ => ⟨.refl _, rfl⟩

end Machine.KeptIfRooted

namespace Evaluation

open Machine Run

/-- Binding parameters is work in the current scope. -/
theorem bindAll_kept (environment : Environment) (names : List Name) (values : List Value) :
    environment.Kept (bindAll environment names values) := by
  induction names generalizing environment values with
  | nil => exact .refl environment
  | cons name names ih =>
      cases values with
      | nil => exact .refl environment
      | cons value values =>
          exact (Environment.Kept.assign environment name.text value).trans (ih _ values)

/-- A call leaves nothing behind but what it has printed: its body works in a scope of its
own, which is left however the body ends. -/
theorem leaveCall_eq {machine inner : Machine} {parameters : List Name} {arguments : List Value}
    (rooted : 0 < machine.environment.depth)
    (kept : (enterCall parameters arguments machine).KeptIfRooted inner) :
    leaveCall machine.environment.current inner = { machine with printed := inner.printed } := by
  have entered := bindAll_kept machine.environment.enter.2 parameters arguments
  have deeper : 0 < (enterCall parameters arguments machine).environment.depth := by
    rw [show (enterCall parameters arguments machine).environment
      = bindAll machine.environment.enter.2 parameters arguments from rfl, entered.depth]
    simp
  obtain ⟨within, depth⟩ := kept deeper
  have restored : inner.environment.leave machine.environment.current = machine.environment :=
    Environment.leave_of_kept_enter rooted (entered.trans within)
  have counted : inner.depth - 1 = machine.depth := by
    rw [depth]
    rfl
  rw [leaveCall, restored, counted]

/-- What a call leaves behind: the machine as it was if the call is refused, and otherwise the one
that its body leaves, with the scope of the call left. -/
theorem machine_of_call {nested : Node → Run Flow} {limits : Limits} {parameters : List Name}
    {body : Node} {arguments : List Value} {machine after : Machine}
    (ended : (call nested limits parameters body arguments machine).machine? = some after) :
    after = machine ∨ ∃ inner,
      (nested body (enterCall parameters arguments machine)).machine? = some inner
        ∧ after = leaveCall machine.environment.current inner := by
  unfold call at ended
  split at ended
  · exact .inl (Option.some.inj ended).symm
  · split at ended
    · exact .inl (Option.some.inj ended).symm
    · cases outcome : nested body (enterCall parameters arguments machine) with
      | done flow inner | failed error inner =>
          simp only [outcome] at ended
          exact .inr ⟨inner, rfl, (Option.some.inj ended).symm⟩
      | unfinished =>
          simp only [outcome] at ended
          cases ended

/-- What a run keeps its parts keep, if it chains and printing keeps it. -/
theorem congruence_keeps {related : Machine → Machine → Prop}
    (refl : ∀ machine, related machine machine)
    (trans : ∀ {before middle after}, related before middle → related middle after →
      related before after)
    (prints : ∀ (machine : Machine) piece, related machine
      { machine with printed := machine.printed ++ piece })
    (limits : Limits) : Congruence limits limits fun run _ => run.Keeps related where
  pure result := .pure refl result
  fail error := .fail refl error
  unfinished := .unfinished
  bind first next := Keeps.bind @trans first next
  lookup name := .lookup refl name
  write pieces := .write refl @trans prints limits.sink pieces

section

variable {nested : Node → Run Flow} (keeps : ∀ node, (nested node).Keeps KeptIfRooted)
include keeps

/-- **A call leaves its caller exactly as it was**, whatever is called and however it ends: only
what it has printed is there besides. -/
theorem call_restores (limits : Limits) (parameters : List Name) (body : Node)
    (arguments : List Value) :
    (call nested limits parameters body arguments).Keeps fun before after =>
      0 < before.environment.depth → after = { before with printed := after.printed } := by
  intro machine after ended rooted
  rcases machine_of_call ended with rfl | ⟨inner, body_ended, rfl⟩
  · rfl
  · rw [leaveCall_eq rooted (keeps body _ inner body_ended)]

theorem call_keeps (limits : Limits) (parameters : List Name) (body : Node)
    (arguments : List Value) :
    (call nested limits parameters body arguments).Keeps KeptIfRooted := by
  intro machine after ended rooted
  rw [call_restores keeps limits parameters body arguments machine after ended rooted]
  exact ⟨.refl _, rfl⟩

/-- One node keeps what the nodes inside it keep. -/
theorem step_keeps (limits : Limits) (rounds : Nat) (node : Node) :
    (step nested limits rounds node).Keeps KeptIfRooted := by
  have parts : Congruence limits limits fun run _ => run.Keeps KeptIfRooted :=
    congruence_keeps .refl .trans .print limits
  refine parts.step nested nested (call_keeps keeps limits) (fun child _ => keeps child) ?_
  intro target inner value _
  exact .assign target.text (fun machine value => .assign machine target.text value) value

end

/-- Every evaluation keeps the scopes, by induction on its allowance of rounds. -/
theorem evaluate_keeps (limits : Limits) (rounds : Nat) (tree : Node) :
    (evaluate limits rounds tree).Keeps KeptIfRooted := by
  induction rounds generalizing tree with
  | zero => exact .unfinished
  | succ rounds ih => exact step_keeps ih limits rounds tree

/-- **An evaluation ends in the scope in which it began**, with a result or with an error:
the scopes, the one that is current, what lies around each, and the number of active
calls are what they were; the bindings of all other scopes are too, and no name of the
current scope is unbound. -/
theorem evaluate_kept {callers : List Nat} {limits : Limits} {rounds : Nat} {tree : Node}
    {machine after : Machine} (reached : Environment.Reached callers machine.environment)
    (ended : (evaluate limits rounds tree machine).machine? = some after) :
    machine.Kept after :=
  evaluate_keeps limits rounds tree machine after ended reached.depth_pos

/-- A call whose body fails halfway, made inside another scope with a sink that is full. -/
theorem evaluate_kept_failing_call :
    let body : Node := .block [.assign (.ofText "x") (.integer 1), .print none]
    let machine : Machine :=
      ⟨(Environment.ofBindings [("f", .function [.ofText "n"] body)]).enter.2, 0, "printed"⟩
    let tree : Node :=
      .program [.assign (.ofText "y") .null, .call (.identifier (.ofText "f")) [.null]]
    ∃ after, Environment.Reached [0] machine.environment
      ∧ evaluate ⟨200, fun _ => true⟩ 9 tree machine = .failed .sinkFull after
      ∧ machine.Kept after := by
  intro body machine tree
  have reached : Environment.Reached [0] machine.environment := .enter (.start _)
  have failed : evaluate ⟨200, fun _ => true⟩ 9 tree machine = .failed .sinkFull _ := rfl
  exact ⟨_, reached, failed, evaluate_kept reached (congrArg Outcome.machine? failed)⟩

end Evaluation

end Scriptlet
