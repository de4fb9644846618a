/-
# Proofs.Constants -- trees that have one value wherever they run

A tree `Evaluates` to a value if it does so on every machine and under all limits, leaves the
machine as it was, and needs an allowance of rounds that does not depend on either.  Literals do,
and what is put together from trees that do with operators, in lists and in maps.
-/
import Mathlib.Data.List.Forall2
import Scriptlet.Proofs.Constructs

namespace Scriptlet

set_option autoImplicit false

namespace Evaluation

/-- The tree has this value, on every machine, and changes nothing. -/
def Evaluates (node : Node) (value : Value) : Prop :=
  ∃ rounds, ∀ limits more machine, rounds ≤ more →
    evaluate limits more node machine = .done (.value value) machine

/-- Entries with the same key and trees that have these values. -/
structure EntryEvaluates (form : String × Node) (entry : String × Value) : Prop where
  key : form.1 = entry.1
  value : Evaluates form.2 entry.2

section

variable {limits : Limits} {rounds : Nat} {machine : Machine} {node : Node} {value : Value}

theorem valueOf_done
    (evaluated : evaluate limits rounds node machine = .done (.value value) machine) :
    valueOf (evaluate limits rounds) node machine = .done value machine :=
  bind_done evaluated

/-- A tree of which one step yields a value, given that the allowance behind it is large. -/
theorem evaluates_of_step (least : Nat)
    (steps : ∀ limits rounds machine, least ≤ rounds →
      step (evaluate limits rounds) limits rounds node machine = .done (.value value) machine) :
    Evaluates node value := by
  refine ⟨least + 1, fun limits more machine le => ?_⟩
  obtain ⟨rounds, rfl⟩ := Nat.exists_eq_add_of_le' (Nat.le_of_add_left_le le)
  exact steps limits rounds machine (Nat.le_of_succ_le_succ le)

end

theorem evaluates_unary {operator : Operator} {node : Node} {operand value : Value}
    (evaluates : Evaluates node operand) (found : operator.unary operand = .ok value) :
    Evaluates (.unary operator node) value := by
  obtain ⟨least, evaluated⟩ := evaluates
  refine evaluates_of_step least fun limits rounds machine le => ?_
  refine (bind_done (valueOf_done (evaluated limits rounds machine le))).trans ?_
  rw [found]
  rfl

theorem evaluates_binary {operator : Operator} {left right : Node} {first second value : Value}
    (lefts : Evaluates left first) (rights : Evaluates right second)
    (found : operator.binary first second = .ok value) :
    Evaluates (.binary operator left right) value := by
  obtain ⟨some, evaluated⟩ := lefts
  obtain ⟨others, behind⟩ := rights
  refine evaluates_of_step (max some others) fun limits rounds machine le => ?_
  have here := valueOf_done
    (evaluated limits rounds machine (Nat.le_trans (Nat.le_max_left _ _) le))
  have next := valueOf_done (behind limits rounds machine (Nat.le_trans (Nat.le_max_right _ _) le))
  refine ((bind_done here).trans (bind_done next)).trans ?_
  rw [found]
  rfl

theorem evaluates_negate {word value : Int64}
    (exact : Integer.ofExact? (-word.toInt) = some value) :
    Evaluates (.unary .negate (.integer word)) (.integer value) := by
  refine evaluates_unary (evaluates_of_step 0 fun _ _ _ _ => rfl) ?_
  simp only [Operator.unary, Operator.exactOr, exact]

theorem valuesOf_done {nodes : List Node} {values : List Value}
    (each : List.Forall₂ Evaluates nodes values) :
    ∃ rounds, ∀ limits more machine, rounds ≤ more →
      valuesOf (evaluate limits more) nodes machine = .done values machine := by
  induction each with
  | nil => exact ⟨0, fun _ _ _ _ => rfl⟩
  | cons first _ ih =>
      obtain ⟨some, first⟩ := first
      obtain ⟨others, rest⟩ := ih
      refine ⟨max some others, fun limits more machine le => ?_⟩
      have here := valueOf_done (first limits more machine (Nat.le_trans (Nat.le_max_left _ _) le))
      have behind := rest limits more machine (Nat.le_trans (Nat.le_max_right _ _) le)
      exact (bind_done here).trans (bind_done behind)

theorem mapOf_done {forms : List (String × Node)} {entries : List (String × Value)}
    (each : List.Forall₂ EntryEvaluates forms entries) :
    ∃ rounds, ∀ limits more machine before, rounds ≤ more →
      mapOf (evaluate limits more) before forms machine
        = .done (entries.foldl (fun before entry => Dictionary.insert entry.1 entry.2 before)
          before) machine := by
  induction each with
  | nil => exact ⟨0, fun _ _ _ _ _ => rfl⟩
  | @cons form entry forms entries first _ ih =>
      obtain ⟨same, some, first⟩ := first
      obtain ⟨others, rest⟩ := ih
      refine ⟨max some others, fun limits more machine before le => ?_⟩
      have here := valueOf_done (first limits more machine (Nat.le_trans (Nat.le_max_left _ _) le))
      have behind := rest limits more machine (Dictionary.insert form.1 entry.2 before)
        (Nat.le_trans (Nat.le_max_right _ _) le)
      rw [List.foldl_cons, ← same]
      exact (bind_done here).trans behind

theorem evaluates_list {nodes : List Node} {values : List Value}
    (each : List.Forall₂ Evaluates nodes values) : Evaluates (.list nodes) (.list values) := by
  obtain ⟨least, done⟩ := valuesOf_done each
  exact evaluates_of_step least fun limits rounds machine le =>
    bind_done (done limits rounds machine le)

theorem evaluates_map {forms : List (String × Node)} {entries : List (String × Value)}
    (each : List.Forall₂ EntryEvaluates forms entries) :
    Evaluates (.map forms) (.map (Dictionary.ofList entries)) := by
  obtain ⟨least, done⟩ := mapOf_done each
  exact evaluates_of_step least fun limits rounds machine le =>
    bind_done (done limits rounds machine [] le)

end Evaluation

end Scriptlet
