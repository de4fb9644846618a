/-
# Proofs.Noninterference -- what a program does not mention is nothing to it

Names are looked up in the scopes of the caller, so how a program runs depends on the
environment -- but only on what the environment answers for the names that the program and
the functions it may get hold of mention.  Two environments `AgreeOn` some names if they
answer alike for them and the functions in the answers mention no others.  A program that
mentions none but these runs alike in both, whatever else they bind, in whichever scopes,
and they agree on these names again when it has run (`evaluate_agreeOn`).

An assignment may shadow in one environment what it overwrites in the other.  The answers
are the same, and an environment is asked for nothing else.
-/
import Scriptlet.Proofs.SideBySide

namespace Scriptlet

set_option autoImplicit false

/-! ## Environments that agree -/

namespace Environment

variable {among : String → Prop} {environment other : Environment}

/-- The same answers for some names, and in these answers no functions that mention any
other names. -/
structure AgreeOn (among : String → Prop) (environment other : Environment) : Prop where
  same : ∀ name, among name → environment.lookup? name = other.lookup? name
  mentions : ∀ name value, among name → environment.lookup? name = some value →
    ∀ mentioned ∈ value.names, among mentioned

namespace AgreeOn

/-- An assignment is answered for alike in both environments, whichever scope of each held
the name before. -/
theorem assign (agree : environment.AgreeOn among other) (linked : environment.Linked)
    (other_linked : other.Linked) (name : String) {value : Value}
    (mentions : ∀ mentioned ∈ value.names, among mentioned) :
    (environment.assign name value).AgreeOn among (other.assign name value) where
  same wanted listed := by
    rw [lookup?_assign linked, lookup?_assign other_linked, agree.same wanted listed]
  mentions wanted found listed answer := by
    rw [lookup?_assign linked] at answer
    split at answer
    · obtain rfl : value = found := Option.some.inj answer
      exact mentions
    · exact agree.mentions wanted found listed answer

theorem enter (agree : environment.AgreeOn among other) (linked : environment.Linked)
    (other_linked : other.Linked) : environment.enter.2.AgreeOn among other.enter.2 where
  same name listed := by
    rw [lookup?_enter linked, lookup?_enter other_linked, agree.same name listed]
  mentions name found listed answer := by
    rw [lookup?_enter linked] at answer
    exact agree.mentions name found listed answer

end AgreeOn

end Environment

/-! ## Runs in environments that agree -/

/-- Machines in environments that agree on some names, for trees with no other names. -/
def Likeness.agreeing (limits : Limits) (among : String → Prop) : Likeness where
  holds part := ∀ name ∈ part.ownNames, among name
  label := id
  limits := limits
  environments environment other :=
    environment.Linked ∧ other.Linked ∧ environment.AgreeOn among other
  printed := Eq
  mayStop := False
  plain := .id
  rooted := by
    rintro environment other ⟨linked, other_linked, -⟩
    exact ⟨Nat.zero_lt_of_lt linked.current, Nat.zero_lt_of_lt other_linked.current⟩
  lookup := by
    rintro environment other name ⟨-, -, agree⟩ listed
    have own : among name.text := listed name.text (List.mem_singleton.mpr rfl)
    refine ⟨?_, fun value answer => ?_⟩
    · rw [Value.relabel_id_eq, Option.map_id_fun, agree.same name.text own, id]
    · exact Value.throughout_ownNames_iff.mpr (agree.mentions name.text value own answer)
  assign := by
    rintro environment other name value ⟨linked, other_linked, agree⟩ within
    rw [Value.relabel_id]
    have mentions := Value.throughout_ownNames_iff.mp within
    exact ⟨linked.assign name value, other_linked.assign name value,
      agree.assign linked other_linked name mentions⟩
  enter := by
    rintro environment other ⟨linked, other_linked, agree⟩
    exact ⟨linked.enter, other_linked.enter, agree.enter linked other_linked⟩
  write := @Likeness.write_eq
  full := @Likeness.full_eq limits

namespace Evaluation

open Environment

/-- **Names that a program does not mention do not matter to it**, nor do the scopes in which
those are bound that it mentions.  In two environments that agree on all names of a tree it
evaluates to the same flow, fails with the same error, or is unfinished in both; it prints
the same; and afterwards the environments agree on these names again. -/
theorem evaluate_agreeOn {among : String → Prop} {limits : Limits} {rounds : Nat} {tree : Node}
    {callers callers' : List Nat} {machine machine' : Machine}
    (reached : Reached callers machine.environment)
    (reached' : Reached callers' machine'.environment)
    (depth : machine.depth = machine'.depth) (printed : machine.printed = machine'.printed)
    (mentioned : ∀ name ∈ tree.names, among name)
    (agree : machine.environment.AgreeOn among machine'.environment) :
    (evaluate limits rounds tree machine).ending? = (evaluate limits rounds tree machine').ending?
      ∧ ∀ after after', (evaluate limits rounds tree machine).machine? = some after →
        (evaluate limits rounds tree machine').machine? = some after' →
        after.printed = after'.printed ∧ after.depth = after'.depth
          ∧ after.environment.AgreeOn among after'.environment := by
  have within : tree.Throughout (Likeness.agreeing limits among).holds :=
    Node.throughout_ownNames_iff.mpr mentioned
  have alike : (Likeness.agreeing limits among).Machines machine machine' :=
    ⟨⟨reached.linked, reached'.linked, agree⟩, depth, printed⟩
  have outcomes := Likeness.evaluate_matches within (.inl (Eq.refl rounds)) machine machine' alike
  have same : tree.relabel (Likeness.agreeing limits among).label = tree := tree.relabel_id
  rw [same] at outcomes
  refine ⟨outcomes.ending?_eq id fun _ _ flows => flows.eq rfl, ?_⟩
  intro after after' ended ended'
  obtain ⟨⟨-, -, agree⟩, depth, printed⟩ := outcomes.machines id ended ended'
  exact ⟨printed, depth, agree⟩

namespace Sample

/-- A function that assigns and prints. -/
def noting : Value := .function [.ofText "n"] (.block
  [.assign (.ofText "x") (.identifier (.ofText "n")), .print (some (.identifier (.ofText "x")))])

/-- A session with its bindings at the root. -/
def flat : Environment := .ofBindings [("note", noting), ("x", .integer 1)]

/-- A session with more bindings, one of which is shadowed, in a scope without any. -/
def shadowed : Environment :=
  ((Environment.ofBindings [("note", noting), ("x", .null), ("y", noting)]).enter.2.assign "x"
    (.integer 1)).enter.2

def tree : Node := .program
  [.call (.identifier (.ofText "note")) [.integer 2], .assign (.ofText "x") .null]

end Sample

/-- A function that assigns and prints, called where its names are bound at the root and
where they are shadowed. -/
theorem evaluate_agreeOn_shadowed :
    ∃ after after',
      evaluate .default 9 Sample.tree (.start Sample.flat) = .done (.value .null) after
      ∧ evaluate .default 9 Sample.tree (.start Sample.shadowed) = .done (.value .null) after'
      ∧ after.printed = "2\n" ∧ after.printed = after'.printed
      ∧ after.environment.AgreeOn (· ∈ ["note", "n", "x"]) after'.environment := by
  have agree : Sample.flat.AgreeOn (· ∈ ["note", "n", "x"]) Sample.shadowed := by
    constructor
    · intro name listed
      simp only [List.mem_cons, List.not_mem_nil, or_false] at listed
      obtain rfl | rfl | rfl := listed <;> rfl
    · intro name value listed answer
      simp only [List.mem_cons, List.not_mem_nil, or_false] at listed
      obtain rfl | rfl | rfl := listed
      · obtain rfl : Sample.noting = value := Option.some.inj answer
        decide
      · cases answer
      · obtain rfl : Value.integer 1 = value := Option.some.inj answer
        decide
  have reached : Reached [] Sample.flat := .start _
  have reached' : Reached [1, 0] Sample.shadowed := .enter (.assign _ _ (.enter (.start _)))
  have ran : evaluate .default 9 Sample.tree (.start Sample.flat) = .done (.value .null) _ := rfl
  have ran' : evaluate .default 9 Sample.tree (.start Sample.shadowed) = .done (.value .null) _ :=
    rfl
  have mentioned : ∀ name ∈ Sample.tree.names, name ∈ ["note", "n", "x"] := by decide
  obtain ⟨-, afterwards⟩ := @evaluate_agreeOn (· ∈ ["note", "n", "x"]) .default 9 Sample.tree
    [] [1, 0] (.start Sample.flat) (.start Sample.shadowed) reached reached' rfl rfl mentioned agree
  obtain ⟨printed, -, agree⟩ :=
    afterwards _ _ (congrArg Outcome.machine? ran) (congrArg Outcome.machine? ran')
  exact ⟨_, _, ran, ran', rfl, printed, agree⟩

end Evaluation

end Scriptlet
