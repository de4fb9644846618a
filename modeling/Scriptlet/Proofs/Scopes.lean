/-
# Proofs.Scopes -- what a session can do to its scopes

`Reached` are the environments that a session gets into by opening scopes, binding
names and leaving scopes in the opposite order; its list holds the numbers that
`enter` has handed out and that are still to be taken back.  In such an environment
the scopes are a stack (`Reached.current_succ`), whatever the order of the steps.

`Kept` compares the environment before and after a piece of work in one scope: only
the bindings of that scope may differ, and no name of it is unbound again.  Work in
a scope of its own leaves nothing behind once that scope is left (`leave_of_kept_enter`).
-/
import Scriptlet.Environment

namespace Scriptlet

set_option autoImplicit false

namespace Environment

variable {environment before middle after : Environment}

/-! ## The steps of a session -/

theorem find?_of_isSome_insert {key wanted : String} {value : Value}
    {entries : List (String × Value)} (bound : (Dictionary.find? wanted entries).isSome) :
    (Dictionary.find? wanted (Dictionary.insert key value entries)).isSome := by
  rw [Dictionary.find?_insert]
  split
  · rfl
  · exact bound

@[simp] theorem depth_assign (environment : Environment) (name : String) (value : Value) :
    (environment.assign name value).depth = environment.depth := by
  simp [depth, assign]

@[simp] theorem current_assign (environment : Environment) (name : String) (value : Value) :
    (environment.assign name value).current = environment.current := rfl

/-- An assignment changes no scope but the current one, and there only the bindings. -/
theorem scope_assign (environment : Environment) (name : String) (value : Value) (number : Nat) :
    (environment.assign name value).scopes[number]?
      = if environment.current = number then
          environment.scopes[number]?.map fun scope =>
            { scope with bindings := Dictionary.insert name value scope.bindings }
        else environment.scopes[number]? := by
  simp [assign, Array.getElem?_modify]

@[simp] theorem depth_enter (environment : Environment) :
    environment.enter.2.depth = environment.depth + 1 := by
  simp [depth, enter]

@[simp] theorem current_enter (environment : Environment) :
    environment.enter.2.current = environment.depth := rfl

theorem scope_enter {number : Nat} (old : number < environment.depth) :
    environment.enter.2.scopes[number]? = environment.scopes[number]? := by
  have ne : number ≠ environment.scopes.size := Nat.ne_of_lt old
  simp [enter, Array.getElem?_push, ne]

@[simp] theorem current_leave (environment : Environment) (caller : Nat) :
    (environment.leave caller).current = caller := rfl

theorem depth_leave (environment : Environment) (caller : Nat) :
    (environment.leave caller).depth
      = if environment.depth > 1 then environment.depth - 1 else environment.depth := by
  by_cases several : environment.scopes.size > 1 <;> simp [depth, leave, several]

/-! ## Reached environments -/

/-- The environments that a session gets into, each with the numbers that `enter` has
handed out and not got back, the last one first. -/
inductive Reached : List Nat → Environment → Prop where
  | start (bindings : List (String × Value)) : Reached [] (ofBindings bindings)
  | enter {callers : List Nat} {environment : Environment} :
      Reached callers environment →
      Reached (environment.enter.1 :: callers) environment.enter.2
  | assign {callers : List Nat} {environment : Environment} (name : String) (value : Value) :
      Reached callers environment → Reached callers (environment.assign name value)
  | leave {caller : Nat} {callers : List Nat} {environment : Environment} :
      Reached (caller :: callers) environment → Reached callers (environment.leave caller)

namespace Reached

variable {callers : List Nat}

/-- The current scope is the last one, and the numbers still to be taken back are those
of all scopes below it. -/
theorem stacked (reached : Reached callers environment) :
    environment.depth = environment.current + 1
      ∧ callers = (List.range environment.current).reverse := by
  induction reached with
  | start bindings => exact ⟨rfl, rfl⟩
  | enter reached ih =>
      obtain ⟨last, below⟩ := ih
      refine ⟨by simp, ?_⟩
      rw [current_enter, last, List.range_succ, List.reverse_append, below]
      rfl
  | assign name value reached ih => simpa using ih
  | @leave caller callers environment reached ih =>
      obtain ⟨last, below⟩ := ih
      cases inner : environment.current with
      | zero => simp [inner] at below
      | succ outer =>
          rw [inner, List.range_succ, List.reverse_append] at below
          obtain ⟨rfl, rfl⟩ := List.cons.inj below
          refine ⟨?_, rfl⟩
          rw [depth_leave, last, inner, current_leave]
          simp

theorem current_succ (reached : Reached callers environment) :
    environment.current + 1 = environment.depth := reached.stacked.1.symm

theorem depth_pos (reached : Reached callers environment) : 0 < environment.depth := by
  have last := reached.current_succ
  omega

end Reached

/-! ## Work in one scope -/

/-- What work in the current scope leaves alone: how many scopes there are, which one is
current, what lies around each, and all bindings outside the current scope.  In the
current scope every name that was bound still is. -/
structure Kept (before after : Environment) : Prop where
  depth : after.depth = before.depth
  current : after.current = before.current
  parents : ∀ number : Nat,
    after.scopes[number]?.map Scope.parent = before.scopes[number]?.map Scope.parent
  others : ∀ number : Nat, number ≠ before.current → after.scopes[number]? = before.scopes[number]?
  bound : ∀ name, (before.local? name).isSome → (after.local? name).isSome

namespace Kept

theorem refl (environment : Environment) : Kept environment environment :=
  ⟨rfl, rfl, fun _ => rfl, fun _ _ => rfl, fun _ bound => bound⟩

theorem trans (first : Kept before middle) (second : Kept middle after) : Kept before after where
  depth := second.depth.trans first.depth
  current := second.current.trans first.current
  parents number := (second.parents number).trans (first.parents number)
  others number other :=
    (second.others number (by rw [first.current]; exact other)).trans (first.others number other)
  bound name bound := second.bound name (first.bound name bound)

theorem assign (environment : Environment) (name : String) (value : Value) :
    Kept environment (environment.assign name value) where
  depth := depth_assign environment name value
  current := rfl
  parents number := by
    rw [scope_assign]
    split
    · simp only [Option.map_map]
      rfl
    · rfl
  others number other := by
    rw [scope_assign, if_neg (Ne.symm other)]
  bound wanted bound := by
    simp only [local?, localBindings, current_assign, scope_assign, if_true] at bound ⊢
    cases found : environment.scopes[environment.current]? with
    | none => simp [found, Dictionary.find?] at bound
    | some scope =>
        simp only [found, Option.map_some] at bound ⊢
        exact find?_of_isSome_insert bound

end Kept

/-- Work in a new scope leaves nothing behind once that scope is left. -/
theorem leave_of_kept_enter (rooted : 0 < before.depth) (kept : Kept before.enter.2 after) :
    after.leave before.enter.1 = before := by
  have deeper : after.scopes.size = before.scopes.size + 1 := kept.depth.trans (depth_enter before)
  have several : after.scopes.size > 1 := by
    simp only [depth] at rooted
    omega
  have scopes : after.scopes.pop = before.scopes := by
    apply Array.ext_getElem?
    intro number
    by_cases old : number < before.depth
    · have inner : number ≠ before.enter.2.current := Nat.ne_of_lt old
      have within : number < after.scopes.size - 1 := by
        simp only [depth] at old
        omega
      rw [Array.getElem?_pop, if_pos within, kept.others number inner, scope_enter old]
    · simp only [depth] at old
      rw [Array.getElem?_eq_none (by simp only [Array.size_pop]; omega),
        Array.getElem?_eq_none (by omega)]
  simp only [leave, if_pos several, scopes, enter]

end Environment

end Scriptlet
