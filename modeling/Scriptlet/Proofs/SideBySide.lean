/-
# Proofs.SideBySide -- two runs of one tree, step by step

Many laws of evaluation compare two runs: on environments that differ where it must not
matter, of trees whose names stand elsewhere, with a larger allowance of rounds.  A
`Likeness` says how the machines of two runs are alike, and what it has to guarantee is
what evaluation does with an environment: look a name up, assign, and open a scope.  Then
the runs stay alike to their ends (`evaluate_matches`): they end with the same error, or
with results that are the same up to the names in their functions.

A likeness may also ask that something `holds` throughout every tree that is run; whatever
that is, it then holds throughout all functions in flight, as operators make none.

Of a call nothing is left but what it printed (`leaveCall_eq`), so the machines after a
call are as alike as they were before it.
-/
import Scriptlet.Proofs.CallFrames
import Scriptlet.Proofs.Lookups

namespace Scriptlet

set_option autoImplicit false

/-- Two outcomes that go together.  A first run that `mayStop` may be unfinished whatever the
other one does. -/
inductive Outcome.Matches {α β : Type} (mayStop : Prop) (results : α → β → Prop)
    (machines : Machine → Machine → Prop) : Outcome α → Outcome β → Prop where
  | done {result : α} {other : β} {after after' : Machine} :
      results result other → machines after after' →
      Matches mayStop results machines (.done result after) (.done other after')
  | failed {error : RuntimeError} {after after' : Machine} :
      machines after after' →
      Matches mayStop results machines (.failed error after) (.failed error after')
  | unfinished : Matches mayStop results machines .unfinished .unfinished
  | stopped {other : Outcome β} :
      mayStop → Matches mayStop results machines .unfinished other

namespace Outcome

variable {α β : Type}

/-- The result or the error that an outcome ends with, if it ends. -/
def ending? : Outcome α → Option (Except RuntimeError α)
  | .done result _ => some (.ok result)
  | .failed error _ => some (.error error)
  | .unfinished => none

namespace Matches

variable {mayStop : Prop} {alike : Machine → Machine → Prop}

theorem ending?_eq {results : α → α → Prop} {outcome outcome' : Outcome α}
    (matching : outcome.Matches mayStop results alike outcome') (goes : ¬ mayStop)
    (same : ∀ result result', results result result' → result = result') :
    outcome.ending? = outcome'.ending? := by
  cases matching with
  | done results _ => rw [ending?, ending?, same _ _ results]
  | failed _ => rfl
  | unfinished => rfl
  | stopped short => exact absurd short goes

/-- Outcomes that go together and are made of the same are the same. -/
theorem eq {results : α → α → Prop} {outcome outcome' : Outcome α}
    (matching : outcome.Matches mayStop results alike outcome')
    (goes : mayStop → outcome ≠ .unfinished)
    (same : ∀ result result', results result result' → result = result')
    (sameMachine : ∀ machine machine', alike machine machine' → machine = machine') :
    outcome = outcome' := by
  cases matching with
  | done result machine => rw [same _ _ result, sameMachine _ _ machine]
  | failed machine => rw [sameMachine _ _ machine]
  | unfinished => rfl
  | stopped short => exact absurd rfl (goes short)

theorem machines {results : α → β → Prop} {outcome : Outcome α} {outcome' : Outcome β}
    (matching : outcome.Matches mayStop results alike outcome') (goes : ¬ mayStop)
    {after after' : Machine} (ended : outcome.machine? = some after)
    (ended' : outcome'.machine? = some after') : alike after after' := by
  cases matching with
  | done _ left | failed left =>
      obtain rfl := Option.some.inj ended
      obtain rfl := Option.some.inj ended'
      exact left
  | unfinished => cases ended
  | stopped short => exact absurd short goes

end Matches

end Outcome

/-- How the machines of two runs are alike. -/
structure Likeness where
  /-- What holds throughout all trees that are run. -/
  holds : Node → Prop
  /-- The names of the second run, by those of the first. -/
  label : Name → Name
  limits : Limits
  environments : Environment → Environment → Prop
  printed : String → String → Prop
  /-- Whether the first run may be short of rounds. -/
  mayStop : Prop
  plain : Name.Plain label
  rooted : ∀ {environment other : Environment}, environments environment other →
    0 < environment.depth ∧ 0 < other.depth
  lookup : ∀ {environment other : Environment} {name : Name}, environments environment other →
    holds (.identifier name) →
    other.lookup? name.text = (environment.lookup? name.text).map (Value.relabel label)
      ∧ ∀ value, environment.lookup? name.text = some value → value.Throughout holds
  assign : ∀ {environment other : Environment} (name : String) {value : Value},
    environments environment other → value.Throughout holds →
    environments (environment.assign name value) (other.assign name (value.relabel label))
  enter : ∀ {environment other : Environment}, environments environment other →
    environments environment.enter.2 other.enter.2
  write : ∀ {text other : String} (piece : String), printed text other →
    printed (text ++ piece) (other ++ piece)
  full : ∀ {text other : String}, printed text other → limits.sink text = limits.sink other

namespace Likeness

/-- Output that is the same stays so. -/
theorem write_eq {text other : String} (piece : String) (same : text = other) :
    text ++ piece = other ++ piece := congrArg (· ++ piece) same

theorem full_eq (limits : Limits) {text other : String} (same : text = other) :
    limits.sink text = limits.sink other := congrArg limits.sink same

variable (like : Likeness)

/-- Machines that are alike. -/
structure Machines (machine other : Machine) : Prop where
  environment : like.environments machine.environment other.environment
  depth : machine.depth = other.depth
  printed : like.printed machine.printed other.printed

/-- Values that are alike. -/
structure Values (value other : Value) : Prop where
  within : value.Throughout like.holds
  same : other = value.relabel like.label

/-- Flows that are alike. -/
inductive Flows : Flow → Flow → Prop where
  | value {carried other : Value} :
      like.Values carried other → Flows (.value carried) (.value other)
  | returned {carried other : Value} :
      like.Values carried other → Flows (.returned carried) (.returned other)

/-- Lists of values that are alike. -/
structure Lists (values others : List Value) : Prop where
  within : ∀ value ∈ values, value.Throughout like.holds
  same : others = values.map (Value.relabel like.label)

/-- Dictionaries that are alike. -/
structure Dictionaries (entries others : List (String × Value)) : Prop where
  within : ∀ entry ∈ entries, entry.2.Throughout like.holds
  same : others = Value.inEntries (Value.relabel like.label) entries

/-- Runs that match on machines that are alike. -/
def Matches {α β : Type} (results : α → β → Prop) (first : Run α) (second : Run β) : Prop :=
  ∀ machine other, like.Machines machine other →
    (first machine).Matches like.mayStop results like.Machines (second other)

/-- Allowances of rounds for the two runs. -/
def Rounds (rounds others : Nat) : Prop := rounds = others ∨ like.mayStop ∧ rounds ≤ others

variable {like} {α β γ δ : Type}

/-- One round less for both runs. -/
theorem Rounds.pred {rounds others : Nat} (allowed : like.Rounds (rounds + 1) others) :
    ∃ fewer, others = fewer + 1 ∧ like.Rounds rounds fewer := by
  rcases allowed with rfl | ⟨short, le⟩
  · exact ⟨rounds, rfl, .inl rfl⟩
  · exact ⟨others - 1, by omega, .inr ⟨short, by omega⟩⟩

/-! ## Parts of runs -/

namespace Matches

variable {results : α → β → Prop} {further : γ → δ → Prop}

theorem pure {result : α} {other : β} (alike : results result other) :
    like.Matches results (Pure.pure result) (Pure.pure other) :=
  fun _ _ machines => .done alike machines

theorem fail (error : RuntimeError) : like.Matches results (Run.fail error) (Run.fail error) :=
  fun _ _ machines => .failed machines

theorem unfinished : like.Matches results Run.unfinished Run.unfinished :=
  fun _ _ _ => .unfinished

theorem bind {first : Run α} {second : Run β} {next : α → Run γ} {other : β → Run δ}
    (firsts : like.Matches results first second)
    (nexts : ∀ result result', results result result' →
      like.Matches further (next result) (other result')) :
    like.Matches further (first >>= next) (second >>= other) := by
  intro machine machine' alike
  have outcomes := firsts machine machine' alike
  show (Run.bind first next machine).Matches _ _ _ (Run.bind second other machine')
  unfold Run.bind
  generalize first machine = outcome at outcomes
  generalize second machine' = outcome' at outcomes
  cases outcomes with
  | done alike machines => exact nexts _ _ alike _ _ machines
  | failed machines => exact .failed machines
  | unfinished => exact .unfinished
  | stopped short => exact .stopped short

theorem ofExcept {result : Except RuntimeError Value}
    (within : ∀ value, result = .ok value → value.Throughout like.holds) :
    like.Matches like.Values (Run.ofExcept result)
      (Run.ofExcept (result.map (Value.relabel like.label))) := by
  cases result with
  | ok value => exact pure ⟨within value rfl, rfl⟩
  | error error => exact fail error

theorem lookup {name : Name} (within : like.holds (.identifier name)) :
    like.Matches like.Values (Run.lookup name.text) (Run.lookup (like.label name).text) := by
  intro machine other machines
  obtain ⟨same, found⟩ := like.lookup machines.environment within
  simp only [Run.lookup]
  rw [like.plain, same]
  cases outcome : machine.environment.lookup? name.text with
  | none => exact .failed machines
  | some value => exact .done ⟨found value outcome, rfl⟩ machines

theorem assign (name : Name) {value other : Value} (alike : like.Values value other) :
    like.Matches Eq (Run.assign name.text value) (Run.assign (like.label name).text other) := by
  intro machine machine' machines
  rw [like.plain, alike.same]
  refine .done rfl ⟨?_, machines.depth, machines.printed⟩
  exact like.assign name.text machines.environment alike.within

theorem write (pieces : List String) :
    like.Matches Eq (Run.write like.limits.sink pieces) (Run.write like.limits.sink pieces) := by
  induction pieces with
  | nil => exact pure rfl
  | cons piece rest ih =>
      intro machine other machines
      unfold Run.write
      rw [like.full machines.printed]
      split
      · exact .failed machines
      · exact ih _ _ ⟨machines.environment, machines.depth, like.write piece machines.printed⟩

end Matches

/-! ## Evaluation -/

section

open Evaluation Machine

/-- The evaluation of the nodes inside a tree, in the two runs. -/
structure Nested (like : Likeness) (nested other : Node → Run Flow) : Prop where
  keeps : ∀ node, (nested node).Keeps KeptIfRooted
  other_keeps : ∀ {node : Node} {machine machine' after}, node.Throughout like.holds →
    like.Machines machine machine' →
    (other (node.relabel like.label) machine').machine? = some after → machine'.KeptIfRooted after
  evaluates : ∀ {node : Node}, node.Throughout like.holds →
    like.Matches like.Flows (nested node) (other (node.relabel like.label))

variable {nested other : Node → Run Flow} {node : Node}

theorem Values.ofFlows {flow flow' : Flow} (alike : like.Flows flow flow') :
    like.Values flow.carried flow'.carried := by
  cases alike <;> assumption

/-- If the names stay as they are, flows that are alike are the same. -/
theorem Flows.eq (fixed : like.label = id) {flow flow' : Flow} (alike : like.Flows flow flow') :
    flow = flow' := by
  cases alike with
  | value carried | returned carried => rw [carried.same, fixed, Value.relabel_id]

theorem Values.flat {value : Value} (flat : value.isFlat) : like.Values value value :=
  ⟨Value.throughout_of_isFlat flat, (Value.relabel_of_isFlat flat).symm⟩

theorem Values.isTruthy {value value' : Value} (alike : like.Values value value') :
    value'.isTruthy = value.isTruthy := by
  rw [alike.same, Value.isTruthy_relabel]

/-- A value that flows on. -/
theorem Matches.value {result : Run Value} {result' : Run Value}
    (alike : like.Matches like.Values result result') :
    like.Matches like.Flows (result >>= fun value => Pure.pure (.value value))
      (result' >>= fun value => Pure.pure (.value value)) :=
  alike.bind fun _ _ values => .pure (.value values)

/-- Something done for its effect, of which nothing flows on but null. -/
theorem Matches.effect {effect effect' : Run Unit} (alike : like.Matches Eq effect effect') :
    like.Matches like.Flows (effect >>= fun _ => Pure.pure (.value .null))
      (effect' >>= fun _ => Pure.pure (.value .null)) :=
  alike.bind fun _ _ _ => .pure (.value (.flat rfl))

namespace Nested

variable (runs : like.Nested nested other)
include runs

theorem valueOf_matches (within : node.Throughout like.holds) :
    like.Matches like.Values (valueOf nested node) (valueOf other (node.relabel like.label)) :=
  (runs.evaluates within).bind fun _ _ flows => .pure (.ofFlows flows)

theorem valuesOf_matches {nodes : List Node}
    (within : ∀ node ∈ nodes, node.Throughout like.holds) :
    like.Matches like.Lists (valuesOf nested nodes)
      (valuesOf other (nodes.map (Node.relabel like.label))) := by
  induction nodes with
  | nil => exact .pure ⟨nofun, rfl⟩
  | cons node rest ih =>
      rw [List.forall_mem_cons] at within
      refine (runs.valueOf_matches within.1).bind fun value value' first => ?_
      refine (ih within.2).bind fun values values' others => .pure ⟨?_, ?_⟩
      · exact List.forall_mem_cons.mpr ⟨first.within, others.within⟩
      · rw [first.same, others.same, List.map_cons]

theorem mapOf_matches {nodes : List (String × Node)} {entries entries' : List (String × Value)}
    (within : ∀ node ∈ nodes.map Prod.snd, node.Throughout like.holds)
    (alike : like.Dictionaries entries entries') :
    like.Matches like.Dictionaries (mapOf nested entries nodes)
      (mapOf other entries' (nodes.map fun node => (node.1, node.2.relabel like.label))) := by
  induction nodes generalizing entries entries' with
  | nil => exact .pure alike
  | cons node rest ih =>
      rw [List.map_cons, List.forall_mem_cons] at within
      refine (runs.valueOf_matches within.1).bind fun value value' first => ?_
      refine ih within.2 ⟨fun entry among => ?_, ?_⟩
      · rcases Dictionary.mem_insert among with rfl | old
        · exact first.within
        · exact alike.within entry old
      · rw [first.same, alike.same, Value.inEntries_insert]

theorem sequence_matches {nodes : List Node} {last last' : Value}
    (within : ∀ node ∈ nodes, node.Throughout like.holds) (alike : like.Values last last') :
    like.Matches like.Flows (sequence nested last nodes)
      (sequence other last' (nodes.map (Node.relabel like.label))) := by
  induction nodes generalizing last last' with
  | nil => exact .pure (.value alike)
  | cons node rest ih =>
      rw [List.forall_mem_cons] at within
      refine (runs.evaluates within.1).bind fun flow flow' flows => ?_
      cases flows with
      | value carried => exact ih within.2 carried
      | returned carried => exact .pure (.returned carried)

theorem repeatWhile_matches {condition body : Node} {rounds others : Nat}
    (condition_within : condition.Throughout like.holds)
    (body_within : body.Throughout like.holds) (allowed : like.Rounds rounds others) :
    like.Matches like.Flows (repeatWhile nested condition body rounds)
      (repeatWhile other (condition.relabel like.label) (body.relabel like.label) others) := by
  induction rounds generalizing others with
  | zero =>
      rcases allowed with rfl | ⟨short, -⟩
      · exact .unfinished
      · exact fun _ _ _ => .stopped short
  | succ rounds ih =>
      obtain ⟨others, rfl, fewer⟩ := allowed.pred
      refine (runs.valueOf_matches condition_within).bind fun value value' alike => ?_
      rw [alike.isTruthy]
      split
      · refine (runs.evaluates body_within).bind fun flow flow' flows => ?_
        cases flows with
        | value carried => exact ih fewer
        | returned carried => exact .pure (.returned carried)
      · exact .pure (.value (.flat rfl))

omit runs in
theorem bindAll_alike {environment environment' : Environment}
    (alike : like.environments environment environment') (names : List Name)
    {values : List Value} (within : ∀ value ∈ values, value.Throughout like.holds) :
    like.environments (bindAll environment names values)
      (bindAll environment' (names.map like.label) (values.map (Value.relabel like.label))) := by
  induction names generalizing environment environment' values with
  | nil => exact alike
  | cons name names ih =>
      cases values with
      | nil => exact alike
      | cons value values =>
          rw [List.forall_mem_cons] at within
          simp only [List.map_cons, bindAll, like.plain name]
          exact ih (like.assign name.text alike within.1) within.2

/-- The bodies run on machines that are alike, and what they leave is as alike as the
machines of the callers, of which only the printed texts are longer. -/
theorem call_matches {parameters : List Name} {body : Node} {values : List Value}
    (body_within : body.Throughout like.holds)
    (values_within : ∀ value ∈ values, value.Throughout like.holds) :
    like.Matches like.Values (call nested like.limits parameters body values)
      (call other like.limits (parameters.map like.label) (body.relabel like.label)
        (values.map (Value.relabel like.label))) := by
  intro machine machine' alike
  obtain ⟨rooted, rooted'⟩ := like.rooted alike.environment
  have entered : like.Machines (enterCall parameters values machine)
      (enterCall (parameters.map like.label) (values.map (Value.relabel like.label)) machine') :=
    ⟨bindAll_alike (like.enter alike.environment) parameters values_within,
      congrArg (· + 1) alike.depth, alike.printed⟩
  have bodies := runs.evaluates body_within _ _ entered
  have kept := runs.keeps body (enterCall parameters values machine)
  have kept' {after : Machine} := @Nested.other_keeps _ _ _ runs body _ _ after body_within entered
  have left {inner inner' : Machine} (machines : like.Machines inner inner')
      (kept : (enterCall parameters values machine).KeptIfRooted inner)
      (kept' : (enterCall (parameters.map like.label) (values.map (Value.relabel like.label))
        machine').KeptIfRooted inner') :
      like.Machines (leaveCall machine.environment.current inner)
        (leaveCall machine'.environment.current inner') := by
    rw [leaveCall_eq rooted kept, leaveCall_eq rooted' kept']
    exact ⟨alike.environment, alike.depth, machines.printed⟩
  unfold call
  rw [List.length_map, List.length_map, alike.depth]
  split
  · exact .failed alike
  · split
    · exact .failed alike
    · generalize nested body (enterCall parameters values machine) = outcome at bodies kept
      generalize other (body.relabel like.label) _ = outcome' at bodies kept'
      cases bodies with
      | done flows machines =>
          exact .done (.ofFlows flows) (left machines (kept _ rfl) (kept' rfl))
      | failed machines => exact .failed (left machines (kept _ rfl) (kept' rfl))
      | unfinished => exact .unfinished
      | stopped short => exact .stopped short

theorem callNode_matches {callee : Node} {arguments : List Node}
    (callee_within : callee.Throughout like.holds)
    (within : ∀ argument ∈ arguments, argument.Throughout like.holds) :
    like.Matches like.Values (callNode nested like.limits callee arguments)
      (callNode other like.limits (callee.relabel like.label)
        (arguments.map (Node.relabel like.label))) := by
  refine (runs.valueOf_matches callee_within).bind fun value value' alike => ?_
  rw [alike.same]
  cases value with
  | function parameters body =>
      have function_within := Value.throughout_function.mp alike.within
      refine (runs.valuesOf_matches within).bind fun values values' others => ?_
      rw [others.same]
      exact runs.call_matches (function_within.child (by simp [Node.children])) others.within
  | _ => exact .fail _

omit runs in
theorem printLine_matches {value? value?' : Option Value}
    (alike : Option.Rel like.Values value? value?') :
    like.Matches Eq (printLine like.limits value?) (printLine like.limits value?') := by
  cases alike with
  | none => exact .write _
  | some values =>
      simp only [printLine]
      rw [values.same, Value.pieces_relabel like.plain]
      exact .write _

/-- One node goes together if the nodes inside it do. -/
theorem step_matches {rounds others : Nat} (allowed : like.Rounds rounds others)
    (within : node.Throughout like.holds) :
    like.Matches like.Flows (step nested like.limits rounds node)
      (step other like.limits others (node.relabel like.label)) := by
  have child {inner : Node} (among : inner ∈ node.children) := within.child among
  have operand {inner : Node} (among : inner ∈ node.children) :=
    runs.valueOf_matches (child among)
  cases node with
  | integer | float | string | boolean | null => exact .pure (.value (.flat rfl))
  | function parameters body =>
      exact .pure (.value ⟨Value.throughout_function.mpr within, rfl⟩)
  | identifier name => exact (Matches.lookup within.here).value
  | binary operator left right =>
      refine (operand (by simp [Node.children])).bind fun value value' first => ?_
      refine (operand (by simp [Node.children])).bind fun other other' second => ?_
      rw [first.same, second.same, Operator.binary_relabel like.plain]
      exact Matches.value <| .ofExcept fun result made =>
        Operator.throughout_binary first.within second.within made
  | unary operator inner =>
      refine (operand (by simp [Node.children])).bind fun value value' alike => ?_
      rw [alike.same, Operator.unary_relabel]
      exact Matches.value <| .ofExcept fun result made =>
        Value.throughout_of_isFlat (Operator.unary_flat value result made)
  | list elements =>
      rw [Node.relabel, Node.relabelAll_eq_map]
      refine (runs.valuesOf_matches fun _ => child).bind fun values values' alike => ?_
      refine .pure (.value ⟨Value.throughout_list.mpr alike.within, ?_⟩)
      rw [alike.same, Value.relabel, Value.relabelItems_eq_map]
  | map entries =>
      rw [Node.relabel, Node.relabelEntries_eq_map]
      refine (runs.mapOf_matches (fun _ => child) ⟨by simp, rfl⟩).bind fun made made' alike => ?_
      refine .pure (.value ⟨Value.throughout_map.mpr alike.within, ?_⟩)
      rw [alike.same, Value.relabel, Value.relabelEntries_eq_map]
  | print value =>
      cases value with
      | none => exact (printLine_matches .none).effect
      | some inner =>
          refine (operand (by simp [Node.children])).bind fun value value' alike => ?_
          exact (printLine_matches (.some alike)).effect
  | assign target inner =>
      refine (operand (by simp [Node.children])).bind fun value value' alike => ?_
      exact (Matches.assign target alike).effect
  | branch condition consequence alternative =>
      refine (operand (by simp [Node.children])).bind fun value value' alike => ?_
      rw [alike.isTruthy]
      have after {inner : Node} (among : inner ∈ (Node.branch condition consequence
          alternative).children) := (runs.evaluates (child among)).bind fun flow flow' flows =>
        show like.Matches like.Flows (Pure.pure flow.afterBranch) (Pure.pure flow'.afterBranch) by
          cases flows with
          | value carried => exact .pure (.value (.flat rfl))
          | returned carried => exact .pure (.returned carried)
      split
      · exact after (by simp [Node.children])
      · cases alternative with
        | none => exact .pure (.value (.flat rfl))
        | some alternative => exact after (by simp [Node.children])
  | loop condition body =>
      exact runs.repeatWhile_matches (child (by simp [Node.children]))
        (child (by simp [Node.children])) allowed
  | result value =>
      cases value with
      | none => exact .pure (.returned (.flat rfl))
      | some inner =>
          exact (operand (by simp [Node.children])).bind fun _ _ alike => .pure (.returned alike)
  | block statements | program statements =>
      rw [Node.relabel, Node.relabelAll_eq_map]
      exact runs.sequence_matches (fun _ => child) (.flat rfl)
  | call callee arguments =>
      rw [Node.relabel, Node.relabelAll_eq_map]
      exact Matches.value <| runs.callNode_matches (child (by simp [Node.children]))
        fun argument among => child (by simp [Node.children, among])
  | index base position =>
      cases position with
      | none => exact (operand (by simp [Node.children])).value
      | some position =>
          refine (operand (by simp [Node.children])).bind fun value value' first => ?_
          refine (operand (by simp [Node.children])).bind fun other other' second => ?_
          rw [first.same, second.same, Value.indexed_relabel]
          exact Matches.value <| .ofExcept fun result taken =>
            Value.throughout_indexed first.within taken

end Nested

/-- Two evaluations on machines that are alike are alike to their ends, by induction on the
rounds of the first one. -/
theorem nested_evaluate {rounds others : Nat} (allowed : like.Rounds rounds others) :
    like.Nested (evaluate like.limits rounds) (evaluate like.limits others) := by
  have keeps (rounds : Nat) := evaluate_keeps like.limits rounds
  refine ⟨keeps rounds, fun _ _ ended => keeps others _ _ _ ended, ?_⟩
  induction rounds generalizing others with
  | zero =>
      intro node within
      rcases allowed with rfl | ⟨short, -⟩
      · exact .unfinished
      · exact fun _ _ _ => .stopped short
  | succ rounds ih =>
      intro node within
      obtain ⟨others, rfl, fewer⟩ := allowed.pred
      have runs : like.Nested (evaluate like.limits rounds) (evaluate like.limits others) :=
        ⟨keeps rounds, fun _ _ ended => keeps others _ _ _ ended, ih fewer⟩
      exact runs.step_matches fewer within

theorem evaluate_matches {tree : Node} (within : tree.Throughout like.holds)
    {rounds others : Nat} (allowed : like.Rounds rounds others) :
    like.Matches like.Flows (evaluate like.limits rounds tree)
      (evaluate like.limits others (tree.relabel like.label)) :=
  (nested_evaluate allowed).evaluates within

end

end Likeness

end Scriptlet
