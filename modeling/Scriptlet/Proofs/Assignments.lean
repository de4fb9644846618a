/-
# Proofs.Assignments -- what an evaluation can bind

An evaluation changes the scopes in one way only: the environment after it is the one before
it with assignments made in the current scope (`Environment.Assigned`).  The names assigned
can be read off the tree.  They are the targets of the assignments that stand in it outside
its functions (`Node.Assigns`), and no function that is called adds to them, wherever it
comes from and whatever it assigns: of a call only what it has printed is left
(`evaluate_assigned`).
-/
import Scriptlet.Proofs.CallFrames
import Scriptlet.Proofs.Constructs

namespace Scriptlet

set_option autoImplicit false

/-! ## Assignments in an environment -/

namespace Environment

variable {among : String → Prop} {before middle after : Environment}

/-- Assigns names in the current scope, one after the other. -/
def assignAll (environment : Environment) (bindings : List (String × Value)) : Environment :=
  bindings.foldl (fun environment binding => environment.assign binding.1 binding.2) environment

/-- The second environment is the first one after assignments to some of these names. -/
def Assigned (among : String → Prop) (before after : Environment) : Prop :=
  ∃ bindings : List (String × Value), (∀ binding ∈ bindings, among binding.1)
    ∧ after = before.assignAll bindings

/-- An assignment leaves all other names of the current scope as they are. -/
theorem local?_assign_of_ne (environment : Environment) {name wanted : String} (value : Value)
    (ne : name ≠ wanted) :
    (environment.assign name value).local? wanted = environment.local? wanted := by
  simp only [local?, localBindings, current_assign, scope_assign, if_true]
  cases environment.scopes[environment.current]? with
  | none => rfl
  | some scope =>
      simp only [Option.map_some]
      rw [Dictionary.find?_insert, if_neg ne]

namespace Assigned

theorem refl (environment : Environment) : environment.Assigned among environment :=
  ⟨[], nofun, rfl⟩

theorem trans (first : before.Assigned among middle) (second : middle.Assigned among after) :
    before.Assigned among after := by
  obtain ⟨bindings, listed, rfl⟩ := first
  obtain ⟨others, also, rfl⟩ := second
  refine ⟨bindings ++ others, List.forall_mem_append.mpr ⟨listed, also⟩, ?_⟩
  simp only [assignAll, List.foldl_append]

theorem assign (environment : Environment) {name : String} (value : Value)
    (listed : among name) : environment.Assigned among (environment.assign name value) :=
  ⟨[(name, value)], List.forall_mem_singleton.mpr listed, rfl⟩

/-- A name that is not assigned keeps its binding, or is still without one. -/
theorem local?_eq (assigned : before.Assigned among after) {name : String}
    (unlisted : ¬ among name) : after.local? name = before.local? name := by
  obtain ⟨bindings, listed, rfl⟩ := assigned
  induction bindings generalizing before with
  | nil => rfl
  | cons binding rest ih =>
      rw [List.forall_mem_cons] at listed
      have other : binding.1 ≠ name := fun same => unlisted (same ▸ listed.1)
      exact (ih listed.2).trans (before.local?_assign_of_ne binding.2 other)

/-- If there is no name to assign, the environment is what it was. -/
theorem eq_of_none (assigned : before.Assigned among after) (none : ∀ name, ¬ among name) :
    after = before := by
  obtain ⟨bindings, listed, rfl⟩ := assigned
  cases bindings with
  | nil => rfl
  | cons binding rest => exact absurd (listed binding List.mem_cons_self) (none binding.1)

theorem depth_eq (assigned : before.Assigned among after) : after.depth = before.depth := by
  obtain ⟨bindings, -, rfl⟩ := assigned
  induction bindings generalizing before with
  | nil => rfl
  | cons binding rest ih => exact ih.trans (depth_assign before binding.1 binding.2)

end Assigned

end Environment

/-! ## The names that a tree assigns -/

/-- An assignment to the name stands in the tree outside all of its functions. -/
inductive Node.Assigns (name : String) : Node → Prop where
  | here {target : Name} {value : Node} : target.text = name → Assigns name (.assign target value)
  | inside {node child : Node} : child ∈ node.inScope → Assigns name child → Assigns name node

theorem Node.Assigns.mem_names {name : String} {node : Node} (assigns : node.Assigns name) :
    name ∈ node.names := by
  induction assigns with
  | @here target value same =>
      rw [names, parts_eq, List.flatMap_cons]
      exact List.mem_append_left _ (List.mem_singleton.mpr same.symm)
  | @inside node child among _ ih =>
      obtain ⟨part, inside, own⟩ := List.mem_flatMap.mp ih
      rw [names, parts_eq, List.flatMap_cons]
      refine List.mem_append_right _ (List.mem_flatMap.mpr ⟨part, ?_, own⟩)
      exact List.mem_flatMap.mpr ⟨child, mem_children_of_inScope among, inside⟩

/-! ## Evaluations -/

/-- The environment after is the one before with assignments to some names, provided that
there is a root scope. -/
def Machine.AssignedIfRooted (among : String → Prop) (before after : Machine) : Prop :=
  0 < before.environment.depth → before.environment.Assigned among after.environment

namespace Machine.AssignedIfRooted

variable {among : String → Prop} {before middle after : Machine}

theorem refl (machine : Machine) : machine.AssignedIfRooted among machine := fun _ => .refl _

theorem trans (first : before.AssignedIfRooted among middle)
    (second : middle.AssignedIfRooted among after) : before.AssignedIfRooted among after := by
  intro rooted
  have assigned := first rooted
  exact assigned.trans (second (by rwa [assigned.depth_eq]))

end Machine.AssignedIfRooted

namespace Evaluation

open Machine Run

variable {limits : Limits} {rounds : Nat} {tree : Node}

/-- One node assigns its own target and what the nodes in its scope do, but nothing that a call
does. -/
theorem step_assigned {nested : Node → Run Flow} {among : String → Prop}
    (keeps : ∀ node, (nested node).Keeps KeptIfRooted)
    (runs : ∀ child ∈ tree.inScope, (nested child).Keeps (AssignedIfRooted among))
    (listed : ∀ target value, tree = .assign target value → among target.text) :
    (step nested limits rounds tree).Keeps (AssignedIfRooted among) := by
  have calls (parameters : List Name) (body : Node) (values : List Value) :
      (call nested limits parameters body values).Keeps (AssignedIfRooted among) := by
    intro machine after ended rooted
    rw [call_restores keeps limits parameters body values machine after ended rooted]
    exact .refl _
  refine (congruence_keeps .refl .trans (fun _ _ _ => .refl _) limits).step nested nested calls runs
    fun target inner value same => ?_
  have among_names := listed target inner same
  exact .assign target.text (fun machine value _ => .assign _ value among_names) value

/-- An evaluation assigns none but the names that its tree does, by induction on the rounds. -/
theorem evaluate_assigns {among : String → Prop} (listed : ∀ name, tree.Assigns name → among name) :
    (evaluate limits rounds tree).Keeps (AssignedIfRooted among) := by
  induction rounds generalizing tree with
  | zero => exact .unfinished
  | succ rounds ih =>
      refine step_assigned (evaluate_keeps limits rounds) (fun child inside => ih ?_) ?_
      · exact fun name assigns => listed name (.inside inside assigns)
      · rintro target value rfl
        exact listed target.text (.here rfl)

/-- **An evaluation binds only what its tree assigns**, however it ends.  A name whose binding in
the current scope is another one afterwards is the target of an assignment in the tree outside
its functions.  If there is no such assignment the environment is what it was.  And so it is after
a call of any function. -/
theorem evaluate_assigned {machine after : Machine} (rooted : 0 < machine.environment.depth)
    (ended : (evaluate limits rounds tree machine).machine? = some after) :
    (∀ name, after.environment.local? name ≠ machine.environment.local? name → tree.Assigns name)
    ∧ ((∀ name, ¬ tree.Assigns name) → after.environment = machine.environment)
    ∧ ∀ parameters body values (caller left : Machine), 0 < caller.environment.depth →
      (call (evaluate limits rounds) limits parameters body values caller).machine? = some left →
      left.environment = caller.environment := by
  have assigned : machine.environment.Assigned tree.Assigns after.environment :=
    evaluate_assigns (fun _ => id) machine after ended rooted
  refine ⟨fun name changed => ?_, assigned.eq_of_none, ?_⟩
  · exact Classical.byContradiction fun unlisted => changed (assigned.local?_eq unlisted)
  · intro parameters body values caller left caller_rooted called
    rw [call_restores (evaluate_keeps limits rounds) limits parameters body values caller left
      called caller_rooted]

namespace Sample

/-- A function that assigns, and calls itself until it may not. -/
def digging : Value := .function [.ofText "n"] (.block [
  .assign (.ofText "x") (.identifier (.ofText "n")), .assign (.ofText "z") .null,
  .call (.identifier (.ofText "f")) [.identifier (.ofText "n")]])

/-- A session with the function and a name that it assigns. -/
def site : Machine := .start (.ofBindings [("f", digging), ("x", .integer 7)])

def visit : Node := .program [.assign (.ofText "y") (.integer 1),
  .assign (.ofText "f") (.call (.identifier (.ofText "f")) [.null])]

end Sample

/-- Calls that assign and go too deep, with an assignment before them. -/
theorem evaluate_assigned_digging :
    ∃ after, evaluate ⟨3, .endless⟩ 20 Sample.visit Sample.site = .failed (.recursionLimit 3) after
      ∧ after.environment.local? "y" = some (.integer 1) ∧ Sample.visit.Assigns "y"
      ∧ after.environment.local? "x" = some (.integer 7) := by
  have rooted : 0 < Sample.site.environment.depth := Nat.one_pos
  have failed : evaluate ⟨3, .endless⟩ 20 Sample.visit Sample.site
      = .failed (.recursionLimit 3) _ := rfl
  obtain ⟨assigned, -, -⟩ := evaluate_assigned rooted (congrArg Outcome.machine? failed)
  have bound : some (Value.integer 1) ≠ none := nofun
  refine ⟨_, failed, rfl, assigned "y" bound, ?_⟩
  have unassigned : ¬ Sample.visit.Assigns "x" := fun assigns =>
    absurd assigns.mem_names (by decide)
  exact Classical.byContradiction fun changed => unassigned (assigned "x" changed)

end Evaluation

end Scriptlet
