/-
# Proofs.Confinement -- trees of a kind run only trees of that kind

A function is run where it is called, and it may come from anywhere: from a scope, an
argument, a list in a map.  But evaluation makes no trees.  What holds throughout a tree,
and throughout the functions of all scopes, holds throughout every function in flight and
in the scopes afterwards (`evaluate_confined`).

The runs compared here are of one tree on one machine, so the same lemma says that a
larger allowance of rounds changes nothing once a run has ended (`evaluate_more`).
-/
import Scriptlet.Proofs.SideBySide

namespace Scriptlet

set_option autoImplicit false

/-! ## Functions in scopes -/

namespace Environment

variable {holds : Node → Prop} {environment : Environment}

theorem throughout_iff_scope : environment.Throughout holds
    ↔ ∀ (number : Nat) (scope : Scope), environment.scopes[number]? = some scope →
      ∀ binding ∈ scope.bindings, binding.2.Throughout holds := by
  constructor
  · intro within number scope found
    exact within scope (Array.mem_of_getElem? found)
  · intro within scope among
    obtain ⟨number, found⟩ := Array.getElem?_of_mem among
    exact within number scope found

theorem Throughout.assign (within : environment.Throughout holds) (name : String)
    {value : Value} (value_holds : value.Throughout holds) :
    (environment.assign name value).Throughout holds := by
  rw [throughout_iff_scope] at within ⊢
  intro number scope found binding bound
  rw [scope_assign] at found
  split at found
  · obtain ⟨inner, there, rfl⟩ := Option.map_eq_some_iff.mp found
    rcases Dictionary.mem_insert bound with rfl | old
    · exact value_holds
    · exact within number inner there binding old
  · exact within number scope found binding bound

theorem Throughout.enter (within : environment.Throughout holds) :
    environment.enter.2.Throughout holds := by
  intro scope among
  rcases Array.mem_push.mp among with old | rfl
  · exact within scope old
  · exact nofun

theorem Throughout.resolve? (within : environment.Throughout holds) {name : String}
    {steps number : Nat} {value : Value}
    (found : Environment.resolve? environment.scopes name steps number = some value) :
    value.Throughout holds := by
  induction steps generalizing number with
  | zero => cases found
  | succ steps ih =>
      unfold Environment.resolve? at found
      split at found
      · cases found
      · rename_i scope here
        split at found
        · rename_i bound
          obtain rfl := Option.some.inj found
          exact within scope (Array.mem_of_getElem? here) _ (Dictionary.mem_of_find? bound)
        · split at found
          · cases found
          · exact ih found

theorem Throughout.ofBindings {bindings : List (String × Value)}
    (within : ∀ binding ∈ bindings, binding.2.Throughout holds) :
    (Environment.ofBindings bindings).Throughout holds := by
  have inserted : ∀ (pairs entries : List (String × Value)),
      (∀ binding ∈ pairs, binding.2.Throughout holds) →
      (∀ binding ∈ entries, binding.2.Throughout holds) →
      ∀ binding ∈ pairs.foldl (fun entries pair => Dictionary.insert pair.1 pair.2 entries) entries,
        binding.2.Throughout holds := by
    intro pairs
    induction pairs with
    | nil => exact fun _ _ old => old
    | cons pair pairs ih =>
        intro entries all old
        rw [List.forall_mem_cons] at all
        refine ih _ all.2 fun binding among => ?_
        rcases Dictionary.mem_insert among with rfl | before
        · exact all.1
        · exact old binding before
  intro scope among
  obtain rfl : scope = ⟨Dictionary.ofList bindings, none⟩ := by
    simpa [Environment.ofBindings] using among
  exact inserted bindings [] within nofun

instance [DecidablePred holds] : Decidable (environment.Throughout holds) :=
  inferInstanceAs (Decidable (∀ scope ∈ environment.scopes, ∀ binding ∈ scope.bindings,
    binding.2.Throughout holds))

end Environment

/-! ## Confined runs -/

namespace Node

variable {holds : Node → Prop} {node : Node}

/-- What holds throughout a tree or, of a program, throughout its statements. -/
def ThroughoutProgram (holds : Node → Prop) : Node → Prop
  | program statements => ∀ statement ∈ statements, statement.Throughout holds
  | node => node.Throughout holds

theorem Throughout.program (within : node.Throughout holds) : node.ThroughoutProgram holds := by
  cases node with
  | program statements => exact fun statement among => within.child among
  | _ => exact within

instance [DecidablePred holds] : DecidablePred (ThroughoutProgram holds) := fun node =>
  match node with
  | program statements =>
      inferInstanceAs (Decidable (∀ statement ∈ statements, statement.Throughout holds))
  | integer _ | float _ | string _ | boolean _ | null | identifier _ | binary .. | unary .. | list _
  | map _ | print _ | assign .. | branch .. | loop .. | result _ | block _ | function .. | call ..
  | index .. => inferInstanceAs (Decidable (Throughout holds _))

end Node

/-- A machine with a root scope in which something holds throughout the functions of all scopes. -/
structure Machine.Confined (holds : Node → Prop) (machine : Machine) : Prop where
  rooted : 0 < machine.environment.depth
  within : machine.environment.Throughout holds

/-- What a run leaves behind if it is confined: a confined machine, and functions throughout which
something holds in what it yields. -/
structure Outcome.Confined (holds : Node → Prop) (outcome : Outcome Flow) : Prop where
  flows : ∀ flow after, outcome = .done flow after → flow.carried.Throughout holds
  machines : ∀ after, outcome.machine? = some after → after.Confined holds

/-- Two runs on the same machine, of trees throughout which something holds. -/
def Likeness.confined (holds : Node → Prop) (limits : Limits) (mayStop : Prop) : Likeness where
  holds := holds
  label := id
  limits := limits
  environments environment other :=
    environment = other ∧ 0 < environment.depth ∧ environment.Throughout holds
  printed := Eq
  mayStop := mayStop
  plain := .id
  rooted := by
    rintro environment _ ⟨rfl, rooted, -⟩
    exact ⟨rooted, rooted⟩
  lookup := by
    rintro environment _ name ⟨rfl, -, within⟩ _
    rw [Value.relabel_id_eq, Option.map_id_fun]
    exact ⟨rfl, fun value found => within.resolve? found⟩
  assign := by
    rintro environment _ name value ⟨rfl, rooted, within⟩ value_holds
    rw [Value.relabel_id]
    exact ⟨rfl, by rwa [Environment.depth_assign], within.assign name value_holds⟩
  enter := by
    rintro environment _ ⟨rfl, -, within⟩
    exact ⟨rfl, by simp, within.enter⟩
  write := @Likeness.write_eq
  full := @Likeness.full_eq limits

namespace Likeness

variable {holds : Node → Prop} {limits : Limits} {mayStop : Prop} {machine machine' : Machine}

theorem relabel_confined (node : Node) :
    node.relabel (confined holds limits mayStop).label = node := node.relabel_id

theorem map_relabel_confined (nodes : List Node) :
    nodes.map (Node.relabel (confined holds limits mayStop).label) = nodes :=
  (List.map_congr_left fun node _ => relabel_confined node).trans nodes.map_id

theorem confined_machines_iff : (confined holds limits mayStop).Machines machine machine'
    ↔ machine = machine' ∧ machine.Confined holds := by
  constructor
  · rintro ⟨⟨same, rooted, within⟩, depth, printed⟩
    refine ⟨?_, rooted, within⟩
    obtain ⟨environment, count, text⟩ := machine
    obtain ⟨environment', count', text'⟩ := machine'
    rw [show environment = environment' from same, show count = count' from depth,
      show text = text' from printed]
  · rintro ⟨rfl, rooted, within⟩
    exact ⟨⟨rfl, rooted, within⟩, rfl, rfl⟩

/-- Confined runs that match have the same outcome, and are confined to their end. -/
theorem confined_matches {outcome outcome' : Outcome Flow}
    (matching : outcome.Matches mayStop (confined holds limits mayStop).Flows
      (confined holds limits mayStop).Machines outcome')
    (goes : mayStop → outcome ≠ .unfinished) : outcome' = outcome ∧ outcome.Confined holds := by
  refine ⟨?_, ?_, ?_⟩
  · exact (matching.eq goes (fun _ _ flows => flows.eq rfl) fun _ _ machines =>
      (confined_machines_iff.mp machines).1).symm
  · rintro flow after rfl
    cases matching with
    | done flows _ => exact (Values.ofFlows flows).within
  · intro after ended
    cases matching with
    | done _ machines | failed machines =>
        obtain rfl := Option.some.inj ended
        exact (confined_machines_iff.mp machines).2
    | unfinished | stopped => cases ended

end Likeness

namespace Evaluation

variable {holds : Node → Prop} {limits : Limits} {rounds : Nat} {node : Node} {machine : Machine}

/-- One node goes alike on a confined machine if the nodes inside it do, and keeps the machine
confined. -/
theorem step_confined {nested other : Node → Run Flow}
    (runs : (Likeness.confined holds limits False).Nested nested other)
    (within : node.ThroughoutProgram holds) (confined : machine.Confined holds) :
    step other limits rounds node machine = step nested limits rounds node machine
      ∧ (step nested limits rounds node machine).Confined holds := by
  have alike : (Likeness.confined holds limits False).Machines machine machine :=
    Likeness.confined_machines_iff.mpr ⟨rfl, confined⟩
  have stepped : (Likeness.confined holds limits False).Matches
      (Likeness.confined holds limits False).Flows
      (step nested limits rounds node) (step other limits rounds node) := by
    have whole (within : node.Throughout holds) :=
      runs.step_matches (.inl (Eq.refl rounds)) within
    rw [Likeness.relabel_confined] at whole
    cases node with
    | program statements =>
        have nothing : (Likeness.confined holds limits False).Values .null .null := .flat rfl
        have followed := runs.sequence_matches within nothing
        rwa [Likeness.map_relabel_confined] at followed
    | _ => exact whole within
  exact Likeness.confined_matches (stepped machine machine alike) nofun

/-- **Trees of a kind run only trees of that kind**: what holds throughout a tree and all
functions in scopes holds throughout the functions in what the tree yields, and in the scopes
as it leaves them. -/
theorem evaluate_confined (within : node.ThroughoutProgram holds)
    (confined : machine.Confined holds) :
    (evaluate limits rounds node machine).Confined holds := by
  cases rounds with
  | zero => exact ⟨nofun, nofun⟩
  | succ rounds => exact (step_confined (Likeness.nested_evaluate (.inl rfl)) within confined).2

/-- An evaluation of the nodes inside a tree that does what `evaluate` does. -/
theorem nested_of_eq_evaluate {other : Node → Run Flow}
    (same : ∀ {node machine}, node.Throughout holds → machine.Confined holds →
      other node machine = evaluate limits rounds node machine) :
    (Likeness.confined holds limits False).Nested (evaluate limits rounds) other := by
  refine ⟨evaluate_keeps limits rounds, ?_, ?_⟩
  · intro node machine machine' after within machines ended
    obtain ⟨rfl, confined⟩ := Likeness.confined_machines_iff.mp machines
    rw [Likeness.relabel_confined, same within confined] at ended
    exact evaluate_keeps limits rounds node machine after ended
  · intro node within machine machine' machines
    have outcomes := Likeness.evaluate_matches within (.inl (Eq.refl rounds)) _ _ machines
    obtain ⟨rfl, confined⟩ := Likeness.confined_machines_iff.mp machines
    rw [Likeness.relabel_confined] at outcomes ⊢
    rw [same within confined]
    exact outcomes

/-- Another evaluator does on confined machines what `evaluate` does, if it does with every node
what a step over itself does; and this step may be taken to leave something confined behind. -/
theorem eq_evaluate {other : Nat → Node → Run Flow} (zero : ∀ node, other 0 node = Run.unfinished)
    (succ : ∀ {rounds node machine}, node.ThroughoutProgram holds → machine.Confined holds →
      (step (other rounds) limits rounds node machine).Confined holds →
      other (rounds + 1) node machine = step (other rounds) limits rounds node machine)
    (within : node.ThroughoutProgram holds) (confined : machine.Confined holds) :
    other rounds node machine = evaluate limits rounds node machine := by
  induction rounds generalizing node machine with
  | zero => rw [zero, evaluate]
  | succ rounds ih =>
      have runs : (Likeness.confined holds limits False).Nested (evaluate limits rounds)
          (other rounds) := nested_of_eq_evaluate fun within confined => ih within.program confined
      obtain ⟨same, left⟩ := step_confined runs within confined
      rw [succ within confined (same ▸ left), same, evaluate]

/-- A run that has ended ends alike with every larger allowance of rounds. -/
theorem evaluate_more {more : Nat} (le : rounds ≤ more) (rooted : 0 < machine.environment.depth)
    (finished : evaluate limits rounds node machine ≠ .unfinished) :
    evaluate limits more node machine = evaluate limits rounds node machine := by
  have within : node.Throughout fun _ => True := fun _ _ => trivial
  have confined : machine.Confined fun _ => True :=
    ⟨rooted, fun _ _ _ _ _ _ _ _ => trivial⟩
  have alike : (Likeness.confined (fun _ => True) limits True).Machines machine machine :=
    Likeness.confined_machines_iff.mpr ⟨rfl, confined⟩
  have outcomes := Likeness.evaluate_matches within (.inr ⟨trivial, le⟩) _ _ alike
  rw [Likeness.relabel_confined] at outcomes
  exact (Likeness.confined_matches outcomes fun _ => finished).1

end Evaluation

end Scriptlet
