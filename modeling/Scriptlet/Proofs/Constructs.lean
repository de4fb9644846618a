/-
# Proofs.Constructs -- from the parts of an evaluation to the whole

Much of what is true of an evaluation is true of it for one reason: it is true of the few
things that an evaluator does with its machine, and it passes from the parts of a run to the
run.  A relation between runs is `Compositional` if it holds of what both runs do alike, of
two lines printed to the sinks that they are held to, and of two runs one after the other if
it holds of each.  Then it holds of what two evaluators do with a node, if it does of the nodes
that run in the same scope, of the assignment or the loop that the node may be, and of calls
(`Compositional.step`).

Loops are left to each relation because of the one thing about them that is not put together
from parts: they stop when their allowance of rounds is used up.  A relation that holds of that
as well, and of each write to the sinks, is a `Congruence`, and then it holds of loops.

A property of single runs is the case in which the second run is left out of account.
-/
import Scriptlet.Evaluation.Evaluate
import Scriptlet.Proofs.Tree.Parts

namespace Scriptlet

set_option autoImplicit false

/-- The children of a tree that run in the scope in which it runs: all but the body of a
function, which runs when the function is called. -/
def Node.inScope : Node → List Node
  | function _ _ => []
  | node => node.children

theorem Node.mem_children_of_inScope {node child : Node} (among : child ∈ node.inScope) :
    child ∈ node.children := by
  cases node <;> first | exact among | cases among

namespace Evaluation

open Run

/-! ## One run after another -/

section

variable {α β : Type} {first : Run α} {next : α → Run β} {machine after : Machine}

theorem bind_done {result : α} (ran : first machine = .done result after) :
    (first >>= next) machine = next result after := by
  show Run.bind first next machine = _
  unfold Run.bind
  rw [ran]

theorem bind_failed {error : RuntimeError} (ran : first machine = .failed error after) :
    (first >>= next) machine = .failed error after := by
  show Run.bind first next machine = _
  unfold Run.bind
  rw [ran]

/-- Of two runs, one after the other, either one is it that fails. -/
theorem failed_of_bind {error : RuntimeError}
    (failed : (first >>= next) machine = .failed error after) :
    first machine = .failed error after
      ∨ ∃ result middle, first machine = .done result middle
        ∧ next result middle = .failed error after := by
  change Run.bind first next machine = _ at failed
  unfold Run.bind at failed
  split at failed
  · rename_i result middle ran
    exact .inr ⟨result, middle, ran, failed⟩
  · rename_i ran
    cases failed
    exact .inl ran
  · cases failed

end

/-! ## Relations between runs -/

/-- A relation between runs that two runs, each held to limits of its own, pass on from their
parts, except for loops. -/
structure Compositional (limits others : Limits) (related : {α : Type} → Run α → Run α → Prop) :
    Prop where
  pure : ∀ {α : Type} (result : α), related (Pure.pure result) (Pure.pure result)
  fail : ∀ {α : Type} (error : RuntimeError),
    related (Run.fail error : Run α) (Run.fail error)
  bind : ∀ {α β : Type} {first first' : Run α} {next next' : α → Run β},
    related first first' → (∀ result, related (next result) (next' result)) →
    related (first >>= next) (first' >>= next')
  lookup : ∀ name, related (Run.lookup name) (Run.lookup name)
  printLine : ∀ value?, related (printLine limits value?) (printLine others value?)

namespace Compositional

variable {limits others : Limits} {related : {α : Type} → Run α → Run α → Prop}
  (parts : Compositional limits others related)
include parts

theorem ofExcept {α : Type} (result : Except RuntimeError α) :
    related (Run.ofExcept result) (Run.ofExcept result) := by
  cases result with
  | ok result => exact parts.pure result
  | error error => exact parts.fail error

variable {nested other : Node → Run Flow} {node : Node} {nodes : List Node}

theorem valueOf (runs : related (nested node) (other node)) :
    related (valueOf nested node) (valueOf other node) :=
  parts.bind runs fun flow => parts.pure flow.carried

theorem valuesOf (runs : ∀ node ∈ nodes, related (nested node) (other node)) :
    related (valuesOf nested nodes) (valuesOf other nodes) := by
  induction nodes with
  | nil => exact parts.pure []
  | cons node rest ih =>
      rw [List.forall_mem_cons] at runs
      refine parts.bind (parts.valueOf runs.1) fun value => ?_
      exact parts.bind (ih runs.2) fun values => parts.pure (value :: values)

theorem mapOf {pairs : List (String × Node)} (entries : List (String × Value))
    (runs : ∀ node ∈ pairs.map Prod.snd, related (nested node) (other node)) :
    related (mapOf nested entries pairs) (mapOf other entries pairs) := by
  induction pairs generalizing entries with
  | nil => exact parts.pure entries
  | cons pair rest ih =>
      rw [List.map_cons, List.forall_mem_cons] at runs
      exact parts.bind (parts.valueOf runs.1) fun value => ih _ runs.2

theorem sequence (last : Value) (runs : ∀ node ∈ nodes, related (nested node) (other node)) :
    related (sequence nested last nodes) (sequence other last nodes) := by
  induction nodes generalizing last with
  | nil => exact parts.pure _
  | cons node rest ih =>
      rw [List.forall_mem_cons] at runs
      refine parts.bind runs.1 fun flow => ?_
      cases flow with
      | value carried => exact ih carried runs.2
      | returned carried => exact parts.pure _

theorem repeatWhile {condition body : Node} (rounds : Nat)
    (unfinished : related (Run.unfinished : Run Flow) Run.unfinished)
    (conditions : related (nested condition) (other condition))
    (bodies : related (nested body) (other body)) :
    related (repeatWhile nested condition body rounds)
      (repeatWhile other condition body rounds) := by
  induction rounds with
  | zero => exact unfinished
  | succ rounds ih =>
      refine parts.bind (parts.valueOf conditions) fun value => ?_
      split
      · refine parts.bind bodies fun flow => ?_
        cases flow with
        | value carried => exact ih
        | returned carried => exact parts.pure _
      · exact parts.pure _

variable (calls : ∀ parameters body values, related (call nested limits parameters body values)
  (call other others parameters body values))
include calls

theorem callNode {callee : Node} {arguments : List Node}
    (callees : related (nested callee) (other callee))
    (runs : ∀ node ∈ arguments, related (nested node) (other node)) :
    related (callNode nested limits callee arguments)
      (callNode other others callee arguments) := by
  refine parts.bind (parts.valueOf callees) fun value => ?_
  cases value with
  | function parameters body =>
      exact parts.bind (parts.valuesOf runs) fun values => calls parameters body values
  | _ => exact parts.fail _

variable (nested other)

/-- One node hands the relation on from the nodes that run in its scope; whether a loop does is
left open. -/
theorem step {rounds : Nat} (runs : ∀ child ∈ node.inScope, related (nested child) (other child))
    (assigns : ∀ target inner value, node = .assign target inner →
      related (Run.assign target.text value) (Run.assign target.text value))
    (loops : ∀ condition body, node = .loop condition body →
      related (Evaluation.repeatWhile nested condition body rounds)
        (Evaluation.repeatWhile other condition body rounds)) :
    related (step nested limits rounds node) (step other others rounds node) := by
  have operand {inner : Node} (among : inner ∈ node.inScope) := parts.valueOf (runs inner among)
  have passed {result result' : Run Value} (alike : related result result') :
      related (result >>= fun value => Pure.pure (Flow.value value))
        (result' >>= fun value => Pure.pure (Flow.value value)) :=
    parts.bind alike fun value => parts.pure _
  cases node with
  | integer | float | string | boolean | null | function => exact parts.pure _
  | identifier name => exact passed (parts.lookup name.text)
  | binary operator left right =>
      refine parts.bind (operand (by simp [Node.inScope, Node.children])) fun left => ?_
      refine parts.bind (operand (by simp [Node.inScope, Node.children])) fun right => ?_
      exact passed (parts.ofExcept _)
  | unary operator inner =>
      refine parts.bind (operand (by simp [Node.inScope, Node.children])) fun value => ?_
      exact passed (parts.ofExcept _)
  | list elements => exact parts.bind (parts.valuesOf runs) fun values => parts.pure _
  | map entries => exact parts.bind (parts.mapOf [] runs) fun entries => parts.pure _
  | print value =>
      cases value with
      | none => exact parts.bind (parts.printLine none) fun _ => parts.pure _
      | some inner =>
          refine parts.bind (operand (by simp [Node.inScope, Node.children])) fun value => ?_
          exact parts.bind (parts.printLine (some value)) fun _ => parts.pure _
  | assign target inner =>
      refine parts.bind (operand (by simp [Node.inScope, Node.children])) fun value => ?_
      exact parts.bind (assigns target inner value rfl) fun _ => parts.pure _
  | branch condition consequence alternative =>
      refine parts.bind (operand (by simp [Node.inScope, Node.children])) fun value => ?_
      split
      · refine parts.bind (runs _ ?_) fun flow => parts.pure _
        simp [Node.inScope, Node.children]
      · cases alternative with
        | none => exact parts.pure _
        | some alternative =>
            refine parts.bind (runs _ ?_) fun flow => parts.pure _
            simp [Node.inScope, Node.children]
  | loop condition body => exact loops condition body rfl
  | result value =>
      cases value with
      | none => exact parts.pure _
      | some inner =>
          refine parts.bind (operand (by simp [Node.inScope, Node.children])) fun value => ?_
          exact parts.pure _
  | block statements | program statements => exact parts.sequence .null runs
  | call callee arguments =>
      refine passed (parts.callNode calls (runs _ ?_) fun argument among => runs _ ?_)
      · simp [Node.inScope, Node.children]
      · simp [Node.inScope, Node.children, among]
  | index base position =>
      cases position with
      | none => exact passed (operand (by simp [Node.inScope, Node.children]))
      | some position =>
          refine parts.bind (operand (by simp [Node.inScope, Node.children])) fun base => ?_
          refine parts.bind (operand (by simp [Node.inScope, Node.children])) fun index => ?_
          exact passed (parts.ofExcept _)

/-- The same with loops, if the relation holds of a run that is out of rounds. -/
theorem step_of_unfinished {rounds : Nat}
    (unfinished : related (Run.unfinished : Run Flow) Run.unfinished)
    (runs : ∀ child ∈ node.inScope, related (nested child) (other child))
    (assigns : ∀ target inner value, node = .assign target inner →
      related (Run.assign target.text value) (Run.assign target.text value)) :
    related (Evaluation.step nested limits rounds node)
      (Evaluation.step other others rounds node) := by
  refine parts.step nested other calls runs assigns ?_
  rintro condition body rfl
  refine parts.repeatWhile rounds unfinished (runs _ ?_) (runs _ ?_)
  · simp [Node.inScope, Node.children]
  · simp [Node.inScope, Node.children]

end Compositional

/-- A relation between runs that two runs, each held to limits of its own, pass on from their
parts. -/
structure Congruence (limits others : Limits) (related : {α : Type} → Run α → Run α → Prop) :
    Prop where
  pure : ∀ {α : Type} (result : α), related (Pure.pure result) (Pure.pure result)
  fail : ∀ {α : Type} (error : RuntimeError),
    related (Run.fail error : Run α) (Run.fail error)
  unfinished : related (Run.unfinished : Run Flow) Run.unfinished
  bind : ∀ {α β : Type} {first first' : Run α} {next next' : α → Run β},
    related first first' → (∀ result, related (next result) (next' result)) →
    related (first >>= next) (first' >>= next')
  lookup : ∀ name, related (Run.lookup name) (Run.lookup name)
  write : ∀ pieces, related (Run.write limits.sink pieces) (Run.write others.sink pieces)

namespace Congruence

variable {limits others : Limits} {related : {α : Type} → Run α → Run α → Prop}
  (parts : Congruence limits others related)
include parts

theorem compositional : Compositional limits others related where
  pure := parts.pure
  fail := parts.fail
  bind := parts.bind
  lookup := parts.lookup
  printLine value? := by
    cases value? with
    | none => exact parts.write _
    | some value => exact parts.write _

variable {node : Node} (nested other : Node → Run Flow)

/-- One node hands the relation on from the nodes that run in its scope. -/
theorem step (calls : ∀ parameters body values, related (call nested limits parameters body values)
      (call other others parameters body values))
    {rounds : Nat} (runs : ∀ child ∈ node.inScope, related (nested child) (other child))
    (assigns : ∀ target inner value, node = .assign target inner →
      related (Run.assign target.text value) (Run.assign target.text value)) :
    related (step nested limits rounds node) (step other others rounds node) :=
  parts.compositional.step_of_unfinished nested other calls parts.unfinished runs assigns

end Congruence

end Evaluation

end Scriptlet
