/-
# Proofs.Termination -- only loops run forever

However functions call themselves and each other, an evaluation ends if there is no loop in the
tree and none in the functions of the scopes (`evaluate_ends`).  The tree alone does not tell how
many rounds it takes, as functions come from everywhere.  But each node inside a tree has fewer
nodes in it than the tree, and each call brings the limit on calls nearer; and an evaluation makes
no trees, so that there is a number of nodes that no body of a function exceeds.

That last thing has to be known of every function that is called.  The evaluation under watch for
it ends, on any machine, as it fails when a tree is too large or has a loop (`watched_ends`), and it
is the plain evaluation if all trees that there are in the beginning pass the watch.
-/
import Scriptlet.Proofs.Watching

namespace Scriptlet

set_option autoImplicit false

/-! ## Nodes, counted -/

namespace Node

/-- The number of nodes of a tree, those in the bodies of functions included. -/
def weight (node : Node) : Nat := node.parts.length

/-- Whether a node is a loop. -/
def isLoop : Node → Bool
  | loop .. => true
  | _ => false

variable {node : Node}

theorem weight_le_of_mem {nodes : List Node} (among : node ∈ nodes) :
    node.weight ≤ (nodes.flatMap parts).length :=
  (List.sublist_flatten_of_mem (List.mem_map_of_mem among)).length_le

theorem weight_lt_of_mem_children {child : Node} (among : child ∈ node.children) :
    child.weight < node.weight := by
  have whole : node.weight = (node.children.flatMap parts).length + 1 := by
    rw [weight, parts_eq, List.length_cons]
  rw [whole]
  exact Nat.lt_succ_of_le (weight_le_of_mem among)

theorem weight_le_of_mem_parts {part : Node} (inside : part ∈ node.parts) :
    part.weight ≤ node.weight := by
  induction node using induction_children with
  | step node ih =>
      rw [parts_eq] at inside
      rcases List.mem_cons.mp inside with rfl | inside
      · exact Nat.le_refl _
      · obtain ⟨child, among, deeper⟩ := List.mem_flatMap.mp inside
        have lighter := weight_lt_of_mem_children among
        exact Nat.le_trans (ih child among deeper) (Nat.le_of_lt lighter)

/-- A part that is no loop and has at most so many nodes. -/
def Small (most : Nat) (part : Node) : Prop := part.isLoop = false ∧ part.weight ≤ most

instance (most : Nat) : DecidablePred (Small most) := fun part =>
  inferInstanceAs (Decidable (part.isLoop = false ∧ part.weight ≤ most))

theorem throughout_small {most : Nat} (loopless : node.Throughout (isLoop · = false))
    (light : node.weight ≤ most) : node.Throughout (Small most) := fun part inside =>
  ⟨loopless part inside, Nat.le_trans (weight_le_of_mem_parts inside) light⟩

end Node

namespace Environment

variable {holds : Node → Prop} {environment : Environment}

/-- The functions that the values in all scopes contain. -/
def functions (environment : Environment) : List Node :=
  environment.scopes.toList.flatMap fun scope => scope.bindings.flatMap fun binding =>
    binding.2.functions.map fun inner => .function inner.1 inner.2

theorem throughout_iff_functions :
    environment.Throughout holds ↔ ∀ tree ∈ environment.functions, tree.Throughout holds := by
  simp only [functions, List.mem_flatMap, List.mem_map, Array.mem_toList_iff]
  constructor
  · rintro within _ ⟨scope, among, binding, bound, inner, inside, rfl⟩
    exact within scope among binding bound inner inside
  · intro within scope among binding bound inner inside
    exact within _ ⟨scope, among, binding, bound, inner, inside, rfl⟩

end Environment

/-! ## Runs that end -/

namespace Run

variable {α β : Type} {depth : Nat}

/-- From every machine with so many active calls the run ends, and leaves as many. -/
def Ends (depth : Nat) (run : Run α) : Prop :=
  ∀ machine, machine.depth = depth →
    ∃ after, (run machine).machine? = some after ∧ after.depth = depth

namespace Ends

theorem pure (result : α) : Ends depth (Pure.pure result : Run α) := fun machine here =>
  ⟨machine, rfl, here⟩

theorem fail (error : RuntimeError) : Ends depth (Run.fail error : Run α) := fun machine here =>
  ⟨machine, rfl, here⟩

theorem bind {first : Run α} {next : α → Run β} (firsts : first.Ends depth)
    (nexts : ∀ result, (next result).Ends depth) : (first >>= next).Ends depth := by
  intro machine here
  obtain ⟨middle, ended, there⟩ := firsts machine here
  show ∃ after, (Run.bind first next machine).machine? = some after ∧ _
  unfold Run.bind
  cases outcome : first machine with
  | done result after =>
      rw [outcome] at ended
      obtain rfl := Option.some.inj ended
      exact nexts result after there
  | failed error after =>
      rw [outcome] at ended
      exact ⟨middle, ended, there⟩
  | unfinished =>
      rw [outcome] at ended
      cases ended

theorem lookup (name : String) : (Run.lookup name).Ends depth := by
  intro machine here
  refine ⟨machine, ?_, here⟩
  unfold Run.lookup
  split <;> rfl

theorem assign (name : String) (value : Value) : (Run.assign name value).Ends depth :=
  fun _ here => ⟨_, rfl, here⟩

theorem write (sink : Sink) (pieces : List String) : (Run.write sink pieces).Ends depth := by
  induction pieces with
  | nil => exact pure ()
  | cons piece rest ih =>
      intro machine here
      unfold Run.write
      split
      · exact ⟨machine, rfl, here⟩
      · exact ih _ here

end Ends

end Run

namespace Evaluation

open Run

variable {limits : Limits} {depth most rounds : Nat}

theorem compositional_ends (limits : Limits) (depth : Nat) :
    Compositional limits limits fun run _ => run.Ends depth where
  pure := .pure
  fail := .fail
  bind := .bind
  lookup := .lookup
  printLine value? := by
    cases value? with
    | none => exact .write limits.sink _
    | some value => exact .write limits.sink _

/-- A call ends if the body does, with one more active call; if the limit is reached, anyway. -/
theorem call_ends {nested : Node → Run Flow} {body : Node}
    (bodies : depth < limits.calls → (nested body).Ends (depth + 1)) (parameters : List Name)
    (arguments : List Value) : (call nested limits parameters body arguments).Ends depth := by
  rintro machine rfl
  unfold call
  split
  · exact ⟨machine, rfl, rfl⟩
  · split
    · exact ⟨machine, rfl, rfl⟩
    · rename_i shallow
      obtain ⟨inner, ended, deeper⟩ := bodies (Nat.lt_of_not_le shallow)
        (enterCall parameters arguments machine) rfl
      refine ⟨leaveCall machine.environment.current inner, ?_, ?_⟩
      · cases outcome : nested body (enterCall parameters arguments machine) with
        | done flow after | failed error after =>
            rw [outcome] at ended
            obtain rfl := Option.some.inj ended
            rfl
        | unfinished =>
            rw [outcome] at ended
            cases ended
      · show inner.depth - 1 = machine.depth
        rw [deeper, Nat.add_sub_cancel]

/-- Rounds that suffice for a tree of a certain weight when so many calls are active, if no body of
a function that is called has more than `most` nodes. -/
def roundsAt (limits : Limits) (most depth weight : Nat) : Nat :=
  (limits.calls - depth) * (most + 1) + weight

theorem roundsAt_call (shallow : depth < limits.calls) (weight : Nat) :
    roundsAt limits most (depth + 1) most < roundsAt limits most depth weight := by
  unfold roundsAt
  have nearer : limits.calls - depth = limits.calls - (depth + 1) + 1 := by omega
  rw [nearer, Nat.succ_mul]
  omega

theorem roundsAt_le (limits : Limits) (depth : Nat) {weight : Nat} (light : weight ≤ most) :
    roundsAt limits most depth weight < (limits.calls + 1) * (most + 1) := by
  unfold roundsAt
  have fewer : (limits.calls - depth) * (most + 1) ≤ limits.calls * (most + 1) :=
    Nat.mul_le_mul_right _ (Nat.sub_le _ _)
  rw [Nat.succ_mul]
  omega

/-- The watch for trees without loops and with at most so many nodes in each part. -/
def smallWatch (most : Nat) (node : Node) (_ : Machine) : Bool :=
  decide (node.Throughout (Node.Small most))

/-- **Under watch every evaluation ends.**  By induction on the rounds: a node inside has a smaller
weight, and the body of a function may have any weight up to `most`, as there is one call less to
come. -/
theorem watched_ends (alarm : RuntimeError) {node : Node} (positive : 0 < rounds)
    (enough : node.weight ≤ most → roundsAt limits most depth node.weight < rounds) :
    (evaluateWatched (smallWatch most) alarm limits rounds node).Ends depth := by
  induction rounds generalizing node depth with
  | zero => cases positive
  | succ rounds ih =>
      intro machine here
      by_cases passes : node.Throughout (Node.Small most)
      · obtain ⟨loopless, light⟩ := passes.here
        have enough := enough light
        have children : ∀ child ∈ node.inScope,
            (evaluateWatched (smallWatch most) alarm limits rounds child).Ends depth := by
          intro child among
          have lighter := Node.weight_lt_of_mem_children (Node.mem_children_of_inScope among)
          unfold roundsAt at enough
          apply ih
          · omega
          · intro _
            unfold roundsAt
            omega
        have calls (parameters : List Name) (body : Node) (values : List Value) : (call
            (evaluateWatched (smallWatch most) alarm limits rounds) limits parameters body
            values).Ends depth := by
          apply call_ends
          intro shallow
          have fewer := @roundsAt_call limits depth most shallow node.weight
          apply ih
          · omega
          · intro body_light
            unfold roundsAt at fewer enough ⊢
            omega
        rw [evaluateWatched_passing (decide_eq_true passes)]
        refine (compositional_ends limits depth).step _ (evaluateWatched (smallWatch most) alarm
          limits rounds) calls children (fun target _ value _ => .assign target.text value) ?_
          machine here
        rintro condition body rfl
        cases loopless
      · refine ⟨machine, ?_, here⟩
        unfold evaluateWatched
        rw [if_neg (by simpa [smallWatch] using passes)]
        rfl

/-! ## Evaluations without loops -/

/-- Without loops, and with so many nodes at most in each tree that there is, an evaluation ends. -/
theorem evaluate_ne_unfinished {tree : Node} {machine : Machine}
    (small : tree.Throughout (Node.Small most)) (confined : machine.Confined (Node.Small most))
    (enough : roundsAt limits most machine.depth tree.weight < rounds) :
    evaluate limits rounds tree machine ≠ .unfinished := by
  obtain ⟨after, found, -⟩ := watched_ends .sinkFull (Nat.zero_lt_of_lt enough)
    (fun _ => enough) machine rfl
  have passes (part : Node) (machine : Machine) (within : part.Throughout (Node.Small most)) :
      smallWatch most part machine = true := decide_eq_true within
  rw [evaluateWatched_of_throughout passes small confined] at found
  intro unfinished
  rw [unfinished] at found
  cases found

/-- The number of nodes in a tree and in the functions of all scopes. -/
def nodesWith (tree : Node) (environment : Environment) : Nat :=
  tree.weight + (environment.functions.flatMap Node.parts).length

/-- Rounds that suffice for a tree with the functions of an environment. -/
def roundsFor (limits : Limits) (tree : Node) (environment : Environment) : Nat :=
  (limits.calls + 1) * (nodesWith tree environment + 1)

/-- **Only loops run forever.**  If there is no loop in a tree, nor in any function in any scope,
then the evaluation of the tree ends with a flow or an error, under any limit on calls and with any
sink, however functions call each other.  The number of rounds after which it has ended can be told
in advance. -/
theorem evaluate_ends {tree : Node} {machine : Machine}
    (rooted : 0 < machine.environment.depth) (loopless : tree.Throughout (·.isLoop = false))
    (others : machine.environment.Throughout (·.isLoop = false)) :
    ∃ outcome, outcome ≠ .unfinished ∧ ∀ rounds,
      roundsFor limits tree machine.environment ≤ rounds →
      evaluate limits rounds tree machine = outcome := by
  generalize total : nodesWith tree machine.environment = most
  have light : tree.weight ≤ most := by
    rw [← total]
    exact Nat.le_add_right _ _
  have small := Node.throughout_small loopless light
  have confined : machine.Confined (Node.Small most) := by
    refine ⟨rooted, Environment.throughout_iff_functions.mpr fun function bound => ?_⟩
    apply Node.throughout_small (Environment.throughout_iff_functions.mp others function bound)
    rw [← total]
    exact Nat.le_trans (Node.weight_le_of_mem bound) (Nat.le_add_left _ _)
  have enough : roundsAt limits most machine.depth tree.weight
      < roundsFor limits tree machine.environment := by
    rw [roundsFor, total]
    exact roundsAt_le limits machine.depth light
  have ended := evaluate_ne_unfinished small confined enough
  exact ⟨_, ended, fun rounds le => evaluate_more le rooted ended⟩

namespace Sample

/-- Two functions that call each other, one of them from a list in a map. -/
def duet : Environment := .ofBindings
  [("f", .function [] (.map [("a", .list [.call (.identifier (.ofText "g")) [.null]])])),
    ("g", .function [.ofText "x"] (.print (some (.call (.identifier (.ofText "f")) []))))]

def strike : Node := .program [.call (.identifier (.ofText "f")) []]

end Sample

/-- Two functions that would call each other forever, under a limit of three calls: fifty-six
rounds are enough for the error. -/
theorem evaluate_ends_duet : roundsFor ⟨3, .endless⟩ Sample.strike Sample.duet = 56
    ∧ ∀ rounds, 56 ≤ rounds → evaluate ⟨3, .endless⟩ rounds Sample.strike (.start Sample.duet)
      = .failed (.recursionLimit 3) (.start Sample.duet) := by
  have enough : roundsFor ⟨3, .endless⟩ Sample.strike Sample.duet = 56 := by decide
  obtain ⟨outcome, -, ended⟩ := @evaluate_ends ⟨3, .endless⟩ Sample.strike (.start Sample.duet)
    Nat.one_pos (by decide) (by decide)
  have failed : evaluate ⟨3, .endless⟩ 56 Sample.strike (.start Sample.duet)
      = .failed (.recursionLimit 3) (.start Sample.duet) := rfl
  refine ⟨enough, fun rounds le => ?_⟩
  rw [ended rounds (enough ▸ le), ← ended 56 (Nat.le_of_eq enough), failed]

/-- A loop may indeed run forever: with an empty body, and a condition that is true, it is
unfinished after any number of rounds. -/
theorem loop_unfinished (rounds : Nat) (machine : Machine) :
    evaluate limits rounds (.loop (.boolean true) (.block [])) machine = .unfinished := by
  cases rounds with
  | zero => rfl
  | succ rounds =>
      have turns (left : Nat) : repeatWhile (evaluate limits rounds) (.boolean true) (.block [])
          left machine = .unfinished := by
        cases rounds with
        | zero => cases left <;> rfl
        | succ rounds =>
            induction left with
            | zero => rfl
            | succ left ih => exact ih
      exact turns rounds

end Evaluation

end Scriptlet
