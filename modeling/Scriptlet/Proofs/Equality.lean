/-
# Proofs.Equality -- the laws of equality

The equality of the language is a partial equivalence on all values (`looselyEquals_laws`): it is
symmetric and chains, across integers, floats, containers of both and functions, and what differs
from itself is what a NaN is in.  It is the wider one of the two equalities.  And it is exact on
numbers: an integer equals a float if the float is finite and its value is that integer.

Both equalities are levelwise.  On one level containers are compared by their keys, and everything
else as a whole; chains of numbers go by way of the integer that a float stands for.
-/
import Scriptlet.Proofs.Tree.Sameness
import Scriptlet.Value.Equality

namespace Scriptlet.Value

set_option autoImplicit false

/-! ## Levels of values -/

/-- Whether two values are alike on their own level: containers by their keys, others as a whole. -/
def Alike (equal : Value → Value → Bool) : Value → Value → Prop
  | list _, list _ => True
  | map entries, map others => entries.map Prod.fst = others.map Prod.fst
  | v, w => equal v w = true

theorem looselyEqualItems_iff (vs ws : List Value) :
    looselyEqualItems vs ws = true
      ↔ List.Forall₂ (fun v w => v.looselyEquals w = true) vs ws :=
  forall₂_of_equations rfl (fun _ _ => rfl) (fun _ _ => rfl) (fun _ _ _ _ => rfl) vs ws

theorem strictlyEqualItems_iff (vs ws : List Value) :
    strictlyEqualItems vs ws = true
      ↔ List.Forall₂ (fun v w => v.strictlyEquals w = true) vs ws :=
  forall₂_of_equations rfl (fun _ _ => rfl) (fun _ _ => rfl) (fun _ _ _ _ => rfl) vs ws

theorem looselyEqualEntries_iff (vs ws : List (String × Value)) :
    looselyEqualEntries vs ws = true ↔ vs.map Prod.fst = ws.map Prod.fst
      ∧ List.Forall₂ (fun v w => v.looselyEquals w = true) (vs.map Prod.snd) (ws.map Prod.snd) :=
  entries_iff_of_equations rfl (fun _ _ => rfl) (fun _ _ => rfl)
    (fun (_, _) (_, _) _ _ => rfl) vs ws

theorem strictlyEqualEntries_iff (vs ws : List (String × Value)) :
    strictlyEqualEntries vs ws = true ↔ vs.map Prod.fst = ws.map Prod.fst
      ∧ List.Forall₂ (fun v w => v.strictlyEquals w = true) (vs.map Prod.snd) (ws.map Prod.snd) :=
  entries_iff_of_equations rfl (fun _ _ => rfl) (fun _ _ => rfl)
    (fun (_, _) (_, _) _ _ => rfl) vs ws

theorem levelwise_looselyEquals :
    Levelwise members (Alike looselyEquals) fun v w => v.looselyEquals w = true where
  induct step value := induction_members step value
  iff v w := by
    -- Different kinds are not equal but for numbers, and those have no members.
    cases v <;> cases w <;> first
      | exact iff_of_false Bool.false_ne_true fun alike => Bool.false_ne_true alike.1
      | exact (and_iff_left List.Forall₂.nil).symm
      | simp [looselyEquals, Alike, members, looselyEqualItems_iff, looselyEqualEntries_iff]

theorem levelwise_strictlyEquals :
    Levelwise members (Alike strictlyEquals) fun v w => v.strictlyEquals w = true where
  induct step value := induction_members step value
  iff v w := by
    cases v <;> cases w <;> first
      | exact iff_of_false Bool.false_ne_true fun alike => Bool.false_ne_true alike.1
      | exact (and_iff_left List.Forall₂.nil).symm
      | simp [strictlyEquals, Alike, members, strictlyEqualItems_iff, strictlyEqualEntries_iff]

/-! ## Alike on one level -/

variable {v w u : Value}

theorem alike_symm (alike : v.Alike looselyEquals w) : w.Alike looselyEquals v := by
  cases v with
  | integer i =>
      cases w with
      | integer j => exact beq_iff_eq.mpr (beq_iff_eq.mp alike).symm
      | float y => exact alike
      | _ => cases alike
  | float x =>
      cases w with
      | integer j => exact alike
      | float y => exact Binary64.equals_symm alike
      | _ => cases alike
  | map entries =>
      cases w with
      | map others => exact Eq.symm alike
      | _ => cases alike
  | function parameters body =>
      cases w with
      | function others other =>
          simp only [Alike, looselyEquals, Name.sameAll, Bool.and_eq_true, beq_iff_eq] at alike ⊢
          exact ⟨alike.1.symm, Node.same_symm alike.2⟩
      | _ => cases alike
  | text | boolean =>
      cases w <;> first
        | exact beq_iff_eq.mpr (beq_iff_eq.mp alike).symm
        | cases alike
  | list | null => cases w <;> exact alike

/-- The integer that a number stands for. -/
def integral? : Value → Option Int
  | integer i => some i.toInt
  | float x => x.toInt?
  | _ => none

/-- Equal numbers stand for the same integer, or both for none. -/
theorem integral?_of_alike (alike : v.Alike looselyEquals w) : v.integral? = w.integral? := by
  cases v with
  | integer i =>
      cases w with
      | integer j =>
          obtain rfl : i = j := beq_iff_eq.mp alike
          rfl
      | float y => exact (beq_iff_eq.mp alike).symm
      | _ => cases alike
  | float x =>
      cases w with
      | integer j => exact beq_iff_eq.mp alike
      | float y => exact Binary64.toInt?_of_equals alike
      | _ => cases alike
  | _ => cases w <;> first | rfl | cases alike

/-- Numbers that stand for one integer are equal. -/
theorem alike_of_integral? {k : Int} (left : v.integral? = some k) (right : w.integral? = some k) :
    v.Alike looselyEquals w := by
  cases v with
  | integer i =>
      cases w with
      | integer j =>
          exact beq_iff_eq.mpr (Int64.toInt_inj.mp (Option.some.inj (left.trans right.symm)))
      | float y => exact beq_iff_eq.mpr (right.trans left.symm)
      | _ => cases right
  | float x =>
      cases w with
      | integer j => exact beq_iff_eq.mpr (left.trans right.symm)
      | float y => exact Binary64.equals_of_toInt? left right
      | _ => cases right
  | _ => cases left

theorem alike_trans (alike : v.Alike looselyEquals w) (also : w.Alike looselyEquals u) :
    v.Alike looselyEquals u := by
  have second := integral?_of_alike alike
  have third := integral?_of_alike also
  cases stands : v.integral? with
  | some k => exact alike_of_integral? stands (by rw [← third, ← second, stands])
  | none =>
      -- No integer is among the three, so numbers are floats and equal as such.
      rw [stands] at second
      rw [← second] at third
      cases v with
      | integer i => cases stands
      | float x =>
          cases w with
          | integer j => cases second
          | float y =>
              cases u with
              | integer k => cases third
              | float z => exact Binary64.equals_trans alike also
              | _ => cases also
          | _ => cases alike
      | map entries =>
          cases w with
          | map others =>
              cases u with
              | map entries => exact Eq.trans alike also
              | _ => cases also
          | _ => cases alike
      | function parameters body =>
          cases w with
          | function others other =>
              cases u with
              | function names tree =>
                  simp only [Alike, looselyEquals, Name.sameAll, Bool.and_eq_true, beq_iff_eq]
                    at alike also ⊢
                  exact ⟨alike.1.trans also.1, Node.same_trans alike.2 also.2⟩
              | _ => cases also
          | _ => cases alike
      | text | boolean =>
          cases w <;> first
            | exact beq_iff_eq.mp alike ▸ also
            | cases alike
      | list =>
          cases w with
          | list => cases u <;> exact also
          | _ => cases alike
      | null => cases w <;> first | exact also | cases alike

theorem alike_of_strict (alike : v.Alike strictlyEquals w) : v.Alike looselyEquals w := by
  cases v <;> cases w <;> first | exact alike | cases alike

/-! ## Values with a NaN -/

/-- Values in which a NaN is: floats, containers with such a member, and functions with such a
literal. -/
inductive HoldsNaN : Value → Prop
  | float {x : Binary64} : x.isNaN = true → HoldsNaN (.float x)
  | member {value member : Value} : member ∈ value.members → HoldsNaN member → HoldsNaN value
  | literal {parameters : List Name} {body : Node} {x : Binary64} :
      .float x ∈ body.parts → x.isNaN = true → HoldsNaN (.function parameters body)

theorem throughout_clear_iff {body : Node} :
    body.Throughout Node.Clear ↔ ∀ x, .float x ∈ body.parts → x.isNaN = false := by
  constructor
  · exact fun clear x inside => clear _ inside
  · intro clear part inside
    cases part with
    | float x => exact clear x inside
    | _ => trivial

/-- A function is equal to itself if no NaN literal is in it. -/
theorem alike_function_self_iff {parameters : List Name} {body : Node} :
    (function parameters body).Alike looselyEquals (function parameters body)
      ↔ ∀ x, .float x ∈ body.parts → x.isNaN = false := by
  simp only [Alike, looselyEquals, Name.sameAll, Bool.and_eq_true, beq_iff_eq, true_and,
    Node.same_self_iff, throughout_clear_iff]

/-- A value is equal to itself if no NaN is in it. -/
theorem looselyEquals_self_iff (v : Value) : v.looselyEquals v = true ↔ ¬ v.HoldsNaN := by
  induction v using induction_members with
  | step v ih =>
    rw [levelwise_looselyEquals.self_iff]
    constructor
    · rintro ⟨level, below⟩ holds
      cases holds with
      | float nan =>
          rw [Binary64.equals_self_iff.mp level] at nan
          cases nan
      | member among inner => exact (ih _ among).mp (below _ among) inner
      | literal inside nan =>
          rw [alike_function_self_iff.mp level _ inside] at nan
          cases nan
    · intro clear
      refine ⟨?_, fun member among =>
        (ih member among).mpr fun inner => clear (.member among inner)⟩
      cases v with
      | float x =>
          exact Binary64.equals_self_iff.mpr (Bool.eq_false_iff.mpr fun nan => clear (.float nan))
      | function parameters body =>
          exact alike_function_self_iff.mpr fun x inside =>
            Bool.eq_false_iff.mpr fun nan => clear (.literal inside nan)
      | integer | text | boolean => exact beq_iff_eq.mpr rfl
      | list => trivial
      | map | null => rfl

/-! ## The laws -/

/-- An integer equals a float if the float is finite and its value is that integer. -/
theorem integerEqualsFloat_iff_exact (i : Int64) (x : Binary64) :
    integerEqualsFloat i x = true ↔ x.isFinite = true ∧ x.exact = i.toInt := by
  rw [integerEqualsFloat, beq_iff_eq, Binary64.toInt?_eq_some_iff_exact]

/-- **Equality is a partial equivalence, and exact on numbers.**  It is symmetric and chains, holds
of what is strictly equal, and only what has a NaN in it is not equal to itself.  An integer equals
a float if the float is finite and its value is that integer. -/
theorem looselyEquals_laws (v w u : Value) :
    v.looselyEquals w = w.looselyEquals v
    ∧ (v.looselyEquals w = true → w.looselyEquals u = true → v.looselyEquals u = true)
    ∧ (v.strictlyEquals w = true → v.looselyEquals w = true)
    ∧ (v.looselyEquals v = true ↔ ¬ v.HoldsNaN)
    ∧ ∀ (i : Int64) (x : Binary64), (integer i).looselyEquals (.float x) = true
      ↔ x.isFinite = true ∧ x.exact = i.toInt := by
  have symm {v w : Value} : v.looselyEquals w = true → w.looselyEquals v = true :=
    levelwise_looselyEquals.symm alike_symm
  exact ⟨Bool.eq_iff_iff.mpr ⟨symm, symm⟩, levelwise_looselyEquals.trans alike_trans,
    levelwise_strictlyEquals.imp levelwise_looselyEquals alike_of_strict,
    looselyEquals_self_iff v, integerEqualsFloat_iff_exact⟩

/-- Lists of integers and of floats with zeros of both signs and functions of names at different
places; and the ends of the integers, of which the lower one is a float and the upper one is not. -/
theorem looselyEquals_laws_nested :
    let v : Value := .list [.integer 9007199254740992, .map [("k", .integer 0)],
      .function [⟨"x", some 9⟩] (.float (.zero true))]
    let w : Value := .list [.float (.ofInt 9007199254740992), .map [("k", .float (.zero true))],
      .function [.ofText "x"] (.float (.zero false))]
    let u : Value := .list [.float (.ofInt 9007199254740992), .map [("k", .float (.zero false))],
      .function [.ofText "x"] (.float (.zero true))]
    v.looselyEquals w = true ∧ w.strictlyEquals u = true
    ∧ w.looselyEquals v = true ∧ w.looselyEquals u = true ∧ v.looselyEquals u = true ∧ ¬ v.HoldsNaN
    ∧ (Binary64.ofInt (-9223372036854775808)).exact = (-9223372036854775808 : Int64).toInt
    ∧ (Binary64.ofInt 9223372036854775808).exact ≠ (9223372036854775807 : Int64).toInt := by
  intro v w u
  have first : v.looselyEquals w = true := by decide +kernel
  have strict : w.strictlyEquals u = true := by decide +kernel
  have itself : v.looselyEquals v = true := by decide +kernel
  have beyond : (integer 9223372036854775807).looselyEquals (.float (.ofInt 9223372036854775808))
      = false := by decide +kernel
  have second := (looselyEquals_laws w u v).2.2.1 strict
  obtain ⟨symm, trans, -, self, exact⟩ := looselyEquals_laws v w u
  have least :=
    (exact (-9223372036854775808) (.ofInt (-9223372036854775808))).mp (by decide +kernel)
  refine ⟨first, strict, symm ▸ first, second, trans first second, self.mp itself, least.2, ?_⟩
  intro same
  rw [(exact _ _).mpr ⟨by decide +kernel, same⟩] at beyond
  cases beyond

end Scriptlet.Value
