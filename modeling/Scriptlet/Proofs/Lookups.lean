/-
# Proofs.Lookups -- what a name means in a scope

A name is looked up from the current scope outwards, and how many scopes lie around it is
of no account: `Linked` environments, which are all that a session gets into
(`Reached.linked`), answer after an assignment and in a new scope as one would expect of a
table of names (`lookup?_assign`, `lookup?_enter`).

What holds throughout all functions that are bound in any scope holds `Throughout` the
environment.
-/
import Scriptlet.Proofs.Scopes
import Scriptlet.Proofs.Values

namespace Scriptlet

set_option autoImplicit false

namespace Environment

variable {environment : Environment}

/-! ## Chains of scopes -/

/-- Around every scope lies one that was opened before it. -/
structure Linked (environment : Environment) : Prop where
  current : environment.current < environment.depth
  parents : ∀ (number : Nat) (scope : Scope) (parent : Nat),
    environment.scopes[number]? = some scope → scope.parent = some parent → parent < number

/-- A name is resolved from a scope alike in all lists of scopes that begin with the scopes
up to this one, with any number of steps beyond the number of the scope. -/
theorem resolve?_congr {scopes others : Array Scope} {name : String}
    (parents : ∀ (number : Nat) (scope : Scope) (parent : Nat),
      scopes[number]? = some scope → scope.parent = some parent → parent < number)
    {number steps more : Nat} (enough : number < steps) (also : number < more)
    (same : ∀ inner ≤ number, others[inner]? = scopes[inner]?) :
    resolve? others name more number = resolve? scopes name steps number := by
  induction steps generalizing number more with
  | zero => omega
  | succ steps ih =>
      obtain ⟨more, rfl⟩ := Nat.exists_eq_add_one_of_ne_zero (Nat.ne_zero_of_lt also)
      simp only [resolve?]
      rw [same number (Nat.le_refl number)]
      cases here : scopes[number]? with
      | none => rfl
      | some scope =>
          dsimp only
          cases Dictionary.find? name scope.bindings with
          | some value => rfl
          | none =>
              cases around : scope.parent with
              | none => rfl
              | some parent =>
                  have below := parents number scope parent here around
                  exact ih (by omega) (by omega) fun inner within => same inner (by omega)

/-- The first step of looking a name up, and the scope around for the others. -/
theorem lookup?_eq (linked : environment.Linked) {scope : Scope}
    (here : environment.scopes[environment.current]? = some scope) (name : String) :
    environment.lookup? name
      = match Dictionary.find? name scope.bindings with
        | some value => some value
        | none => scope.parent.bind fun parent =>
            resolve? environment.scopes name environment.scopes.size parent := by
  have current : environment.current < environment.scopes.size := linked.current
  have steps : environment.scopes.size - 1 + 1 = environment.scopes.size := by omega
  have first : environment.lookup? name = resolve? environment.scopes name
      (environment.scopes.size - 1 + 1) environment.current := by rw [lookup?, steps]
  rw [first]
  simp only [resolve?, here]
  cases Dictionary.find? name scope.bindings with
  | some value => rfl
  | none =>
      cases around : scope.parent with
      | none => rfl
      | some parent =>
          have below := linked.parents _ scope parent here around
          exact resolve?_congr linked.parents (by omega) (by omega) fun _ _ => rfl

theorem Linked.scope (linked : environment.Linked) :
    ∃ scope, environment.scopes[environment.current]? = some scope :=
  ⟨_, Array.getElem?_eq_getElem linked.current⟩

/-! ## Assignments and new scopes -/

theorem Linked.assign (linked : environment.Linked) (name : String) (value : Value) :
    (environment.assign name value).Linked where
  current := by
    rw [depth_assign]
    exact linked.current
  parents number scope parent found around := by
    rw [scope_assign] at found
    split at found
    · obtain ⟨inner, there, rfl⟩ := Option.map_eq_some_iff.mp found
      exact linked.parents number inner parent there around
    · exact linked.parents number scope parent found around

theorem Linked.enter (linked : environment.Linked) : environment.enter.2.Linked where
  current := by simp
  parents number scope parent found around := by
    by_cases old : number < environment.depth
    · rw [scope_enter old] at found
      exact linked.parents number scope parent found around
    · have newest : number = environment.scopes.size := by
        have within := (Array.getElem?_eq_some_iff.mp found).1
        simp only [Environment.enter, Array.size_push] at within
        simp only [depth] at old
        omega
      subst newest
      simp only [Environment.enter, Array.getElem?_push_size, Option.some.injEq] at found
      subst found
      obtain rfl := Option.some.inj around
      exact linked.current

theorem Reached.linked {callers : List Nat} (reached : Reached callers environment) :
    environment.Linked := by
  induction reached with
  | start bindings =>
      refine ⟨Nat.one_pos, fun number scope parent found around => ?_⟩
      obtain ⟨within, rfl⟩ := Array.getElem?_eq_some_iff.mp found
      have root : number = 0 := Nat.lt_one_iff.mp within
      subst root
      cases around
  | enter reached ih => exact ih.enter
  | assign name value reached ih => exact ih.assign name value
  | @leave caller callers environment reached ih =>
      have stacked := reached.leave.current_succ
      refine ⟨by omega, fun number scope parent found around => ?_⟩
      refine ih.parents number scope parent ?_ around
      simp only [Environment.leave] at found
      split at found
      · rw [Array.getElem?_pop] at found
        split at found
        · exact found
        · cases found
      · exact found

/-- A name that has been assigned has its new value, and all others mean what they did. -/
theorem lookup?_assign (linked : environment.Linked) (name wanted : String) (value : Value) :
    (environment.assign name value).lookup? wanted
      = if name = wanted then some value else environment.lookup? wanted := by
  obtain ⟨scope, here⟩ := linked.scope
  have changed : (environment.assign name value).scopes[environment.current]?
      = some { scope with bindings := Dictionary.insert name value scope.bindings } := by
    rw [scope_assign, if_pos rfl, here]
    rfl
  rw [lookup?_eq (linked.assign name value) changed, lookup?_eq linked here,
    Dictionary.find?_insert]
  by_cases same : name = wanted
  · rw [if_pos same, if_pos same]
  · rw [if_neg same, if_neg same]
    cases Dictionary.find? wanted scope.bindings with
    | some value => rfl
    | none =>
        cases around : scope.parent with
        | none => simp
        | some parent =>
            have below := linked.parents _ scope parent here around
            have current := linked.current
            simp only [depth] at current
            simp only [Option.bind_some]
            refine resolve?_congr linked.parents (by omega) ?_ fun inner within => ?_
            · simp only [Environment.assign, Array.size_modify]
              omega
            · rw [scope_assign, if_neg (by omega)]

/-- A new scope changes the meaning of no name. -/
theorem lookup?_enter (linked : environment.Linked) (name : String) :
    environment.enter.2.lookup? name = environment.lookup? name := by
  have current := linked.current
  have here : environment.enter.2.scopes[environment.enter.2.current]?
      = some ⟨[], some environment.current⟩ := by
    simp [Environment.enter]
  rw [lookup?_eq linked.enter here]
  simp only [Dictionary.find?, Option.bind_some, lookup?]
  refine resolve?_congr linked.parents current ?_ fun inner within => ?_
  · simp only [Environment.enter, Array.size_push]
    simp only [depth] at current
    omega
  · exact scope_enter (by omega)

/-! ## Functions in scopes -/

/-- What holds throughout every function that a scope of an environment binds. -/
def Throughout (holds : Node → Prop) (environment : Environment) : Prop :=
  ∀ scope ∈ environment.scopes, ∀ binding ∈ scope.bindings, binding.2.Throughout holds

end Environment

end Scriptlet
