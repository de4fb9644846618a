/-
# Proofs.Endings -- what a node can end with

Two things about the end of an evaluation can be told from the node alone.  An expression
flows on with a value and never returns (`step_yields`), as only statements hand a return
on.  And the error that an operator is unknown arises at the node with the operator, so a
node whose operator fits fails otherwise, if the nodes inside it do (`step_fails`).
-/
import Scriptlet.Evaluation.Evaluate
import Scriptlet.Proofs.Grammar.Shapes

namespace Scriptlet

set_option autoImplicit false

/-- Whether the operator of a node, if it has one, takes as many operands as there are. -/
def Node.operatorFits : Node → Bool
  | binary operator _ _ => !operator.isSign
  | unary operator _ => operator.isSign
  | _ => true

/-- Whether a return may flow out of a node. -/
def Node.mayReturn : Node → Bool
  | branch .. | loop .. | result _ | block _ | program _ => true
  | _ => false

theorem Node.mayReturn_of_isExpression {node : Node} (expression : node.isExpression = true) :
    node.mayReturn = false := by
  cases node <;> first | rfl | cases expression

/-- An error other than that of an operator over operands of the wrong number. -/
def RuntimeError.Known (error : RuntimeError) : Prop :=
  ∀ operator, error ≠ .unknownOperator operator

/-- An operation that fails with known errors only. -/
def KnownResult {α : Type} (result : Except RuntimeError α) : Prop :=
  ∀ error, result = .error error → error.Known

theorem KnownResult.ok {α : Type} (value : α) : KnownResult (.ok value) := nofun

theorem KnownResult.error {α : Type} {error : RuntimeError} (known : error.Known) :
    KnownResult (.error error : Except RuntimeError α) := by
  rintro _ ⟨⟩
  exact known

/-! ## Operators and indices -/

namespace Operator

variable {operator : Operator} {left right : Value}

theorem mismatch_known : (operator.mismatch left right).Known := nofun

theorem arithmetic_known (onIntegers : Int → Int → Int)
    (onFloats : Binary64 → Binary64 → Binary64) :
    KnownResult (operator.arithmetic onIntegers onFloats left right) := by
  unfold arithmetic
  split
  · exact .ok _
  · split
    · exact .ok _
    · exact .error mismatch_known

theorem quotient_known : KnownResult (quotient left right) := by
  unfold quotient
  split
  · simp only
    split
    · exact .error nofun
    · split <;> exact .ok _
  · split
    · split
      · exact .error nofun
      · exact .ok _
    · exact .error mismatch_known

theorem compared_known (chosen : Ordering → Bool) :
    KnownResult (operator.compared chosen left right) := by
  have ordered : KnownResult (operator.order left right) := by
    unfold order
    split
    · exact .ok _
    · exact .ok _
    · split
      · exact .ok _
      · exact .error mismatch_known
  unfold compared
  cases outcome : operator.order left right with
  | error error => exact .error (ordered error outcome)
  | ok ordering => exact .ok _

theorem binary_known (fits : operator.isSign = false) :
    KnownResult (operator.binary left right) := by
  cases operator with
  | not | negate => cases fits
  | and | or | equal | notEqual => exact .ok _
  | lessThan | lessThanEqual | greaterThan | greaterThanEqual => exact compared_known _
  | minus | times => exact arithmetic_known _ _
  | divide => exact quotient_known
  | plus =>
      simp only [binary, add]
      split
      · exact .ok _
      · exact .ok _
      · exact arithmetic_known _ _

theorem unary_known {operand : Value} (fits : operator.isSign = true) :
    KnownResult (operator.unary operand) := by
  cases operator with
  | not => exact .ok _
  | negate =>
      simp only [unary]
      split
      · exact .ok _
      · exact .ok _
      · exact .error nofun
  | _ => cases fits

end Operator

namespace Value

theorem itemAt_known {α : Type} (items : List α) (position : Int64) :
    KnownResult (itemAt items position) := by
  unfold itemAt
  simp only
  split
  · exact .error nofun
  · split
    · exact .ok _
    · exact .error nofun

theorem elementAt_known (base : Value) (position : Int64) :
    KnownResult (base.elementAt position) := by
  unfold elementAt
  split
  · exact itemAt_known _ position
  · rename_i text
    cases outcome : itemAt text.toList position with
    | ok character => exact .ok _
    | error error => exact .error (itemAt_known _ position error outcome)
  · exact .error nofun

theorem indexed_known (base index : Value) : KnownResult (base.indexed index) := by
  unfold indexed
  split
  · exact elementAt_known base _
  · split
    · exact elementAt_known base _
    · exact .error nofun
  · split
    · split
      · exact .ok _
      · exact .error nofun
    · exact .error nofun
  · exact .error nofun

end Value

/-! ## Parts of runs -/

namespace Run

variable {α β : Type}

/-- The results that a run can have. -/
def Yields (results : α → Prop) (run : Run α) : Prop :=
  ∀ machine result after, run machine = .done result after → results result

theorem Yields.pure {results : α → Prop} {result : α} (holds : results result) :
    Yields results (Pure.pure result : Run α) := by
  rintro machine _ after ⟨⟩
  exact holds

theorem Yields.bind {results : β → Prop} {first : Run α} {next : α → Run β}
    (yields : ∀ result, Yields results (next result)) : Yields results (first >>= next) := by
  intro machine result after ended
  change Run.bind first next machine = _ at ended
  unfold Run.bind at ended
  split at ended
  · exact yields _ _ result after ended
  · cases ended
  · cases ended

theorem Yields.carried {run : Run Flow}
    (yields : Yields (∃ carried, · = Flow.value carried) run) :
    (run >>= fun flow => Pure.pure (Flow.value flow.carried)) = run := by
  funext machine
  have value := yields machine
  change Run.bind run _ machine = run machine
  unfold Run.bind
  cases outcome : run machine with
  | done flow after =>
      obtain ⟨carried, rfl⟩ := value flow after outcome
      rfl
  | failed | unfinished => rfl

/-- All errors that a run fails with are known ones. -/
def FailsKnown (run : Run α) : Prop :=
  ∀ machine error after, run machine = .failed error after → error.Known

namespace FailsKnown

theorem pure (result : α) : FailsKnown (Pure.pure result : Run α) := by
  intro machine error after ended
  cases ended

theorem fail {error : RuntimeError} (known : error.Known) :
    FailsKnown (Run.fail error : Run α) := by
  rintro machine _ after ⟨⟩
  exact known

theorem unfinished : FailsKnown (Run.unfinished : Run α) := by
  intro machine error after ended
  cases ended

theorem bind {first : Run α} {next : α → Run β} (fails : FailsKnown first)
    (nextFails : ∀ result, FailsKnown (next result)) : FailsKnown (first >>= next) := by
  intro machine error after ended
  change Run.bind first next machine = _ at ended
  unfold Run.bind at ended
  split at ended
  · exact nextFails _ _ error after ended
  · rename_i outcome
    cases ended
    exact fails machine error after outcome
  · cases ended

theorem ofExcept {result : Except RuntimeError α} (known : KnownResult result) :
    FailsKnown (Run.ofExcept result) := by
  cases result with
  | ok value => exact pure value
  | error error => exact fail (known error rfl)

theorem lookup (name : String) : FailsKnown (Run.lookup name) := by
  intro machine error after ended
  unfold Run.lookup at ended
  split at ended
  · cases ended
  · cases ended
    nofun

theorem assign (name : String) (value : Value) : FailsKnown (Run.assign name value) := by
  intro machine error after ended
  cases ended

theorem write (sink : Sink) (pieces : List String) : FailsKnown (Run.write sink pieces) := by
  induction pieces with
  | nil => exact pure ()
  | cons piece rest ih =>
      intro machine error after ended
      unfold Run.write at ended
      split at ended
      · cases ended
        nofun
      · exact ih _ error after ended

end FailsKnown

end Run

namespace Evaluation

open Run

variable {nested : Node → Run Flow} {limits : Limits} {rounds : Nat} {node : Node}

/-! ## Expressions yield values -/

/-- **Only some statements hand a return on**: all other nodes flow on with a value, whatever the
nodes inside them do. -/
theorem step_yields (quiet : node.mayReturn = false) :
    (step nested limits rounds node).Yields (∃ carried, · = Flow.value carried) := by
  have value (carried : Value) : Yields (∃ carried, · = Flow.value carried)
      (Pure.pure (Flow.value carried) : Run Flow) := .pure ⟨carried, rfl⟩
  cases node with
  | branch | loop | result | block | program => cases quiet
  | integer | float | string | boolean | null | function => exact value _
  | identifier | list | map | call => exact .bind fun _ => value _
  | unary | assign => exact .bind fun _ => .bind fun _ => value _
  | binary => exact .bind fun _ => .bind fun _ => .bind fun _ => value _
  | print inner =>
      cases inner with
      | none => exact .bind fun _ => value _
      | some inner => exact .bind fun _ => .bind fun _ => value _
  | index base position =>
      cases position with
      | none => exact .bind fun _ => value _
      | some position => exact .bind fun _ => .bind fun _ => .bind fun _ => value _

/-- **An expression never returns.** -/
theorem evaluate_yields (expression : node.isExpression = true) :
    (evaluate limits rounds node).Yields (∃ carried, · = Flow.value carried) := by
  cases rounds with
  | zero => exact nofun
  | succ rounds => exact step_yields (Node.mayReturn_of_isExpression expression)

/-! ## Operators that fit -/

section

variable (fails : ∀ node, (nested node).FailsKnown)
include fails

theorem valueOf_fails (node : Node) : (valueOf nested node).FailsKnown :=
  .bind (fails node) fun flow => .pure flow.carried

theorem valuesOf_fails (nodes : List Node) : (valuesOf nested nodes).FailsKnown := by
  induction nodes with
  | nil => exact .pure []
  | cons node rest ih =>
      exact .bind (valueOf_fails fails node) fun value => .bind ih fun values => .pure _

theorem mapOf_fails (entries : List (String × Value)) (nodes : List (String × Node)) :
    (mapOf nested entries nodes).FailsKnown := by
  induction nodes generalizing entries with
  | nil => exact .pure entries
  | cons entry rest ih => exact .bind (valueOf_fails fails entry.2) fun value => ih _

theorem sequence_fails (last : Value) (nodes : List Node) :
    (sequence nested last nodes).FailsKnown := by
  induction nodes generalizing last with
  | nil => exact .pure _
  | cons node rest ih =>
      refine .bind (fails node) fun flow => ?_
      cases flow with
      | value carried => exact ih carried
      | returned carried => exact .pure _

theorem repeatWhile_fails (condition body : Node) (rounds : Nat) :
    (repeatWhile nested condition body rounds).FailsKnown := by
  induction rounds with
  | zero => exact .unfinished
  | succ rounds ih =>
      refine .bind (valueOf_fails fails condition) fun value => ?_
      split
      · refine .bind (fails body) fun flow => ?_
        cases flow with
        | value carried => exact ih
        | returned carried => exact .pure _
      · exact .pure _

theorem call_fails (parameters : List Name) (body : Node) (arguments : List Value) :
    (call nested limits parameters body arguments).FailsKnown := by
  intro machine error after ended
  unfold call at ended
  split at ended
  · cases ended
    nofun
  · split at ended
    · cases ended
      nofun
    · cases outcome : nested body (enterCall parameters arguments machine) with
      | done flow inner | unfinished =>
          simp only [outcome] at ended
          cases ended
      | failed inside inner =>
          simp only [outcome] at ended
          cases ended
          exact fails body _ error inner outcome

theorem callNode_fails (callee : Node) (arguments : List Node) :
    (callNode nested limits callee arguments).FailsKnown := by
  refine .bind (valueOf_fails fails callee) fun value => ?_
  split
  · exact .bind (valuesOf_fails fails arguments) fun values => call_fails fails _ _ values
  · exact .fail nofun

omit fails in
theorem printLine_fails (value? : Option Value) : (printLine limits value?).FailsKnown := by
  cases value? with
  | none => exact .write limits.sink _
  | some value => exact .write limits.sink _

/-- A node whose operator fits fails with a known error if the nodes inside it do. -/
theorem step_fails (fits : node.operatorFits = true) :
    (step nested limits rounds node).FailsKnown := by
  have operand := valueOf_fails fails
  cases node with
  | integer | float | string | boolean | null | function => exact .pure _
  | identifier name => exact .bind (.lookup name.text) fun _ => .pure _
  | binary operator left right =>
      have known (left right : Value) : KnownResult (operator.binary left right) :=
        Operator.binary_known (by simpa [Node.operatorFits] using fits)
      refine .bind (operand left) fun _ => .bind (operand right) fun _ => ?_
      exact .bind (.ofExcept (known _ _)) fun _ => .pure _
  | unary operator inner =>
      refine .bind (operand inner) fun _ => ?_
      exact .bind (.ofExcept (Operator.unary_known fits)) fun _ => .pure _
  | list elements => exact .bind (valuesOf_fails fails elements) fun _ => .pure _
  | map entries => exact .bind (mapOf_fails fails [] entries) fun _ => .pure _
  | print value =>
      cases value with
      | none => exact .bind (printLine_fails none) fun _ => .pure _
      | some inner =>
          exact .bind (operand inner) fun _ => .bind (printLine_fails _) fun _ => .pure _
  | assign target inner => exact .bind (operand inner) fun _ => .bind (.assign _ _) fun _ => .pure _
  | branch condition consequence alternative =>
      refine .bind (operand condition) fun _ => ?_
      split
      · exact .bind (fails consequence) fun _ => .pure _
      · cases alternative with
        | none => exact .pure _
        | some alternative => exact .bind (fails alternative) fun _ => .pure _
  | loop condition body => exact repeatWhile_fails fails condition body rounds
  | result value =>
      cases value with
      | none => exact .pure _
      | some inner => exact .bind (operand inner) fun _ => .pure _
  | block statements | program statements => exact sequence_fails fails .null statements
  | call callee arguments => exact .bind (callNode_fails fails callee arguments) fun _ => .pure _
  | index base position =>
      cases position with
      | none => exact .bind (operand base) fun _ => .pure _
      | some position =>
          refine .bind (operand base) fun _ => .bind (operand position) fun _ => ?_
          exact .bind (.ofExcept (Value.indexed_known _ _)) fun _ => .pure _

end

end Evaluation

end Scriptlet
