/-
# Proofs.ScopeStack -- the scopes of a session are a stack of maps

The scopes of a session lie in an array and point to one another by number.  All that can be
asked of them a plain stack of maps would answer too, a map for each scope: a new scope is an
empty map on top, a name is assigned in the top map, and it is looked up from the top map
downwards.  `ScopeStack.arena` lays a stack out as an array, and every operation on the array
does what the same operation does on the stack.

An array that is laid out so is `Stacked`: the current scope is the last one, around each scope
lies the one before, and the loop that looks a name up comes to an end (`Finds`).
-/
import Scriptlet.Proofs.Scopes

namespace Scriptlet

set_option autoImplicit false

/-! ## Stacks of maps -/

/-- Maps on top of one another, at least one. -/
structure ScopeStack where
  top : List (String × Value)
  below : List (List (String × Value))

namespace ScopeStack

def ofBindings (bindings : List (String × Value)) : ScopeStack :=
  ⟨Dictionary.ofList bindings, []⟩

/-- All maps from the top downwards. -/
def maps (stack : ScopeStack) : List (List (String × Value)) := stack.top :: stack.below

def depth (stack : ScopeStack) : Nat := stack.maps.length

/-- An empty map on top. -/
def enter (stack : ScopeStack) : ScopeStack := ⟨[], stack.maps⟩

/-- The stack without its top map; the lowest map stays. -/
def leave (stack : ScopeStack) : ScopeStack :=
  match stack.below with
  | [] => stack
  | next :: rest => ⟨next, rest⟩

def assign (stack : ScopeStack) (name : String) (value : Value) : ScopeStack :=
  { stack with top := Dictionary.insert name value stack.top }

/-- The first hit from the top downwards. -/
def lookup? (stack : ScopeStack) (name : String) : Option Value :=
  stack.maps.findSome? (Dictionary.find? name)

def local? (stack : ScopeStack) (name : String) : Option Value :=
  Dictionary.find? name stack.top

def parentBindings? (stack : ScopeStack) : Option (List (String × Value)) := stack.below.head?

end ScopeStack

/-! ## Stacked environments -/

namespace Environment

/-- The number of the scope around a scope with this number in a stack. -/
def around : Nat → Option Nat
  | 0 => none
  | below + 1 => some below

/-- The loop that looks a name up, from the scope that it has got to, ends with this answer. -/
inductive Finds (scopes : Array Scope) (name : String) : Option Nat → Option Value → Prop where
  | nowhere : Finds scopes name none none
  | here {number : Nat} {scope : Scope} {value : Value} :
      scopes[number]? = some scope → Dictionary.find? name scope.bindings = some value →
      Finds scopes name (some number) (some value)
  | outwards {number : Nat} {scope : Scope} {answer : Option Value} :
      scopes[number]? = some scope → Dictionary.find? name scope.bindings = none →
      Finds scopes name scope.parent answer → Finds scopes name (some number) answer

/-- The scopes are a stack: the current one is the last, and around each lies the one before.  The
numbers that are still to be given back are `callers`; the first of them is that of the scope
around the current one, so what is left next is not the root.  And every look-up ends. -/
structure Stacked (callers : List Nat) (environment : Environment) : Prop where
  last : environment.current + 1 = environment.depth
  parents : ∀ (number : Nat) (scope : Scope),
    environment.scopes[number]? = some scope → scope.parent = around number
  returns : ∀ caller rest, callers = caller :: rest → 1 < environment.depth
    ∧ ∃ scope, environment.scopes[environment.current]? = some scope ∧ scope.parent = some caller
  finds : ∀ name,
    Finds environment.scopes name (some environment.current) (environment.lookup? name)

end Environment

namespace ScopeStack

open Environment

/-! ## Stacks laid out as arrays -/

/-- The scopes of some maps, of which the last one becomes the root. -/
def scopesOf : List (List (String × Value)) → Array Scope
  | [] => #[]
  | bindings :: below => (scopesOf below).push ⟨bindings, around below.length⟩

/-- The environment of a stack. -/
def arena (stack : ScopeStack) : Environment := ⟨scopesOf stack.maps, stack.below.length⟩

/-- The numbers of the scopes of some maps, the one opened last first. -/
def numbers : List (List (String × Value)) → List Nat
  | [] => []
  | _ :: below => below.length :: numbers below

/-- The numbers that were handed out as the maps of a stack were opened. -/
def callers (stack : ScopeStack) : List Nat := numbers stack.below

@[simp] theorem size_scopesOf (maps : List (List (String × Value))) :
    (scopesOf maps).size = maps.length := by
  induction maps with
  | nil => rfl
  | cons bindings below ih => rw [scopesOf, Array.size_push, ih, List.length_cons]

theorem scopesOf_top (bindings : List (String × Value)) (below : List (List (String × Value))) :
    (scopesOf (bindings :: below))[below.length]? = some ⟨bindings, around below.length⟩ := by
  rw [scopesOf, Array.getElem?_push, size_scopesOf, if_pos rfl]

theorem scopesOf_below (bindings : List (String × Value)) {below : List (List (String × Value))}
    {number : Nat} (lower : number < below.length) :
    (scopesOf (bindings :: below))[number]? = (scopesOf below)[number]? := by
  rw [scopesOf, Array.getElem?_push, size_scopesOf, if_neg (Nat.ne_of_lt lower)]

theorem parent_scopesOf {maps : List (List (String × Value))} {number : Nat} {scope : Scope}
    (found : (scopesOf maps)[number]? = some scope) : scope.parent = around number := by
  induction maps with
  | nil => simp [scopesOf] at found
  | cons bindings below ih =>
      have within := (Array.getElem?_eq_some_iff.mp found).1
      rw [size_scopesOf, List.length_cons] at within
      rcases Nat.lt_succ_iff_lt_or_eq.mp within with lower | rfl
      · exact ih (scopesOf_below bindings lower ▸ found)
      · rw [scopesOf_top] at found
        exact (Option.some.inj found) ▸ rfl

/-- Looking a name up in scopes that begin with those of some maps is looking it up in the maps. -/
theorem resolve?_scopesOf {scopes : Array Scope} (name : String)
    (bindings : List (String × Value)) (below : List (List (String × Value))) {steps : Nat}
    (enough : below.length < steps)
    (begins : ∀ number ≤ below.length,
      scopes[number]? = (scopesOf (bindings :: below))[number]?) :
    resolve? scopes name steps below.length
        = (bindings :: below).findSome? (Dictionary.find? name)
      ∧ Finds scopes name (some below.length)
        ((bindings :: below).findSome? (Dictionary.find? name)) := by
  -- The array stays the whole one; the maps are those that the loop has not got to yet.
  induction below generalizing bindings steps with
  | nil =>
      obtain ⟨steps, rfl⟩ := Nat.exists_eq_add_one_of_ne_zero (Nat.ne_zero_of_lt enough)
      have here := (begins 0 (Nat.le_refl 0)).trans (scopesOf_top bindings [])
      simp only [resolve?, List.length_nil, here, List.findSome?_cons, List.findSome?_nil]
      cases found : Dictionary.find? name bindings with
      | some value => exact ⟨rfl, .here here found⟩
      | none => exact ⟨rfl, .outwards here found .nowhere⟩
  | cons next rest ih =>
      obtain ⟨steps, rfl⟩ := Nat.exists_eq_add_one_of_ne_zero (Nat.ne_zero_of_lt enough)
      have here := (begins _ (Nat.le_refl _)).trans (scopesOf_top bindings (next :: rest))
      obtain ⟨resolved, finds⟩ := ih next (Nat.lt_of_succ_lt_succ enough)
        fun number lower => by
          rw [begins number (Nat.le_succ_of_le lower),
            scopesOf_below bindings (Nat.lt_succ_of_le lower)]
      rw [List.length_cons] at here
      simp only [resolve?, List.length_cons, here, List.findSome?_cons (a := bindings)]
      cases found : Dictionary.find? name bindings with
      | some value => exact ⟨rfl, .here here found⟩
      | none => exact ⟨resolved, .outwards here found finds⟩

/-! ## Operations on the array and on the stack -/

variable (stack : ScopeStack)

theorem arena_ofBindings (bindings : List (String × Value)) :
    (ofBindings bindings).arena = .ofBindings bindings := rfl

theorem depth_arena : stack.arena.depth = stack.depth := size_scopesOf stack.maps

theorem arena_enter : stack.arena.enter = (stack.below.length, stack.enter.arena) := by
  simp only [arena, Environment.enter, enter, maps, size_scopesOf, List.length_cons]
  rfl

theorem arena_leave {caller : Nat} {rest : List Nat} (matching : stack.callers = caller :: rest) :
    stack.arena.leave caller = stack.leave.arena ∧ stack.leave.callers = rest := by
  obtain ⟨top, below⟩ := stack
  cases below with
  | nil => cases matching
  | cons next below =>
      obtain ⟨rfl, rfl⟩ := List.cons.inj matching
      have several : (scopesOf (top :: next :: below)).size > 1 := by simp
      have popped : (scopesOf (top :: next :: below)).pop = scopesOf (next :: below) :=
        Array.pop_push
      refine ⟨?_, rfl⟩
      simp only [arena, Environment.leave, maps, if_pos several, popped, leave]

theorem arena_assign (name : String) (value : Value) :
    (stack.assign name value).arena = stack.arena.assign name value := by
  obtain ⟨top, below⟩ := stack
  refine congrArg (Environment.mk · below.length) (Array.ext_getElem? fun number => ?_)
  change (scopesOf (Dictionary.insert name value top :: below))[number]?
    = ((scopesOf (top :: below)).modify below.length _)[number]?
  rw [Array.getElem?_modify]
  rcases Nat.lt_trichotomy number below.length with lower | rfl | higher
  · rw [if_neg (Nat.ne_of_gt lower), scopesOf_below _ lower, scopesOf_below _ lower]
  · rw [if_pos rfl, scopesOf_top, scopesOf_top]
    rfl
  · have outside (bindings : List (String × Value)) :
        (scopesOf (bindings :: below))[number]? = none :=
      Array.getElem?_eq_none (by rw [size_scopesOf]; exact higher)
    rw [if_neg (Nat.ne_of_lt higher), outside, outside]

theorem lookup?_arena (name : String) : stack.arena.lookup? name = stack.lookup? name :=
  (resolve?_scopesOf name stack.top stack.below (by simp [arena, maps]) fun _ _ => rfl).1

theorem localBindings_arena : stack.arena.localBindings = stack.top := by
  simp only [localBindings, arena, maps, scopesOf_top]

theorem local?_arena (name : String) : stack.arena.local? name = stack.local? name := by
  rw [Environment.local?, localBindings_arena, local?]

theorem parentBindings?_arena : stack.arena.parentBindings? = stack.parentBindings? := by
  obtain ⟨top, below⟩ := stack
  simp only [Environment.parentBindings?, arena, maps, scopesOf_top]
  cases below with
  | nil => rfl
  | cons next rest =>
      have outer : (scopesOf (top :: next :: rest))[rest.length]?
          = some ⟨next, around rest.length⟩ :=
        (scopesOf_below top (Nat.lt_succ_self rest.length)).trans (scopesOf_top next rest)
      show (do
        let around ← (scopesOf (top :: next :: rest))[rest.length]?
        pure around.bindings) = some next
      rw [outer]
      rfl

/-- **A stack that is laid out is stacked.** -/
theorem stacked_arena : Stacked stack.callers stack.arena where
  last := (depth_arena stack).symm
  parents number scope found := parent_scopesOf found
  returns caller rest matching := by
    obtain ⟨top, below⟩ := stack
    cases below with
    | nil => cases matching
    | cons next below =>
        obtain ⟨rfl, -⟩ := List.cons.inj matching
        refine ⟨?_, _, scopesOf_top top (next :: below), rfl⟩
        rw [depth_arena]
        simp [depth, maps]
  finds name := by
    rw [lookup?_arena]
    exact (resolve?_scopesOf name stack.top stack.below (Nat.lt_succ_self _) fun _ _ => rfl).2

end ScopeStack

end Scriptlet
