/-
# Proofs.Unwinding -- a return leaves the call that it is in, and nothing else catches it

The evaluator hands a return on from statement to statement as a kind of flow, and takes
the value of an operand however it flows.  So a return in the place of an operand would be
lost.  In what the grammar builds there is none: an operand is an expression, and an
expression never returns (`evaluate_yields`).

What a return does is said here a second time, without flows.  In `evaluateUnwinding` a
return is an exception.  It leaves all statements around it at once, as nothing but a call
catches it; and out of an operand it is cause for alarm.  For what the grammar builds both
evaluators are the same, whatever the alarm (`evaluateUnwinding_eq`).
-/
import Mathlib
import Scriptlet.Proofs.Confinement
import Scriptlet.Proofs.Endings
import Scriptlet.Token.Scan

namespace Scriptlet

set_option autoImplicit false

/-! ## Runs that a return leaves -/

/-- A run that a return may leave early, with the value that is returned. -/
abbrev Leaving := ExceptT Value Run

namespace Leaving

variable {α : Type}

/-- What flows out of a run that a return may leave. -/
def flow (run : Leaving Value) : Run Flow := do
  match ← run.run with
  | .ok value => pure (.value value)
  | .error value => pure (.returned value)

/-- The run that is left if a return flows out of it. -/
def ofFlow (run : Run Flow) : Leaving Value := ExceptT.mk do
  match ← run with
  | .value carried => pure (.ok carried)
  | .returned carried => pure (.error carried)

/-- What flows out of a run that no return should leave. -/
def expected (alarm : RuntimeError) (run : Leaving Value) : Run Flow := do
  match ← run.run with
  | .ok value => pure (.value value)
  | .error _ => Run.fail alarm

theorem flow_ofFlow (run : Run Flow) : (ofFlow run).flow = run := by
  have back (flow : Flow) : ((match flow with
      | .value carried => pure (.ok carried)
      | .returned carried => pure (.error carried) : Run (Except Value Value)) >>= fun left =>
        match left with
        | .ok value => pure (.value value)
        | .error value => pure (.returned value)) = (pure flow : Run Flow) := by
    cases flow <;> simp
  simp only [flow, ofFlow, ExceptT.run_mk, bind_assoc, back, bind_pure]

@[simp] theorem flow_pure (value : Value) :
    flow (pure value) = (pure (.value value) : Run Flow) := by
  simp [flow]

@[simp] theorem flow_throw (value : Value) :
    flow (throw value) = (pure (.returned value) : Run Flow) := by
  simp [flow]

theorem flow_lift_bind (first : Run α) (next : α → Leaving Value) :
    flow (liftM first >>= next) = first >>= fun result => (next result).flow := by
  simp only [flow, ExceptT.run_bind, ExceptT.run_liftM, bind_assoc, bind_map_left]

theorem flow_lift (run : Run Value) :
    flow (liftM run) = run >>= fun value => pure (.value value) := by
  simp only [flow, ExceptT.run_liftM, bind_map_left]

theorem flow_bind (first : Leaving Value) (next : Value → Leaving Value) :
    flow (first >>= next) = first.flow >>= fun flow =>
      match flow with
      | .value carried => (next carried).flow
      | .returned carried => pure (.returned carried) := by
  simp only [flow, ExceptT.run_bind, bind_assoc]
  refine bind_congr fun left => ?_
  cases left <;> simp

/-- Where no return is to be expected, there is no cause for alarm. -/
theorem expected_eq_flow {alarm : RuntimeError} {run : Leaving Value}
    (yields : run.flow.Yields (∃ carried, · = .value carried)) :
    run.expected alarm = run.flow := by
  funext machine
  have value := yields machine
  change Run.bind run.run _ machine = Run.bind run.run _ machine
  change ∀ result after, Run.bind run.run _ machine = _ → _ at value
  unfold Run.bind at value ⊢
  cases outcome : run.run machine with
  | done left after =>
      cases left with
      | ok carried => rfl
      | error carried =>
          rw [outcome] at value
          obtain ⟨_, impossible⟩ := value _ after rfl
          cases impossible
  | failed | unfinished => rfl

end Leaving

namespace Node

/-- A node with expressions in the place of its operands. -/
abbrev TakesExpressions (node : Node) : Prop :=
  ∀ operand ∈ node.operandNodes, operand.isExpression = true

theorem ThroughoutProgram.takesExpressions {node : Node}
    (within : node.ThroughoutProgram TakesExpressions) : node.TakesExpressions := by
  cases node with
  | program => exact nofun
  | _ => exact within.here

theorem takesExpressions_of_parse {tokens : List Token} {tree : Node}
    (parsed : Grammar.parse tokens = .ok tree) : tree.Throughout TakesExpressions := by
  obtain ⟨body, rfl, built⟩ := Grammar.built_of_parse parsed
  refine throughout_iff.mpr ⟨nofun, fun statement among => ?_⟩
  exact (built statement among).imp fun _ => Built.operands

end Node

def Node.isCall : Node → Bool
  | call .. => true
  | _ => false

namespace Evaluation

open Leaving Node Run

/-! ## Evaluation with exceptions -/

section

variable (alarm : RuntimeError) (nested : Node → Leaving Value)

/-- The nodes in the place of operands. -/
def operand (node : Node) : Run Flow := (nested node).expected alarm

/-- Statements one after the other. -/
def inTurn (last : Value) : List Node → Leaving Value
  | [] => pure last
  | node :: rest => do
      let value ← nested node
      inTurn value rest

/-- The body for as long as the condition holds, at most the given number of rounds. -/
def whileTrue (condition body : Node) : Nat → Leaving Value
  | 0 => liftM (unfinished : Run Value)
  | rounds + 1 => do
      let value ← liftM (valueOf (operand alarm nested) condition)
      if value.isTruthy then
        let _ ← nested body
        whileTrue condition body rounds
      else pure .null

variable (limits : Limits)

/-- Calls a value.  A return out of the body of the function ends here. -/
def callCatching (callee : Node) (arguments : List Node) : Run Value := do
  match ← valueOf (operand alarm nested) callee with
  | .function parameters body =>
      let values ← valuesOf (operand alarm nested) arguments
      call (fun inner => (nested inner).flow) limits parameters body values
  | other => fail (.type (.callee other.kind))

/-- What one node does.  All that has only operands in it does what it does in a `step`. -/
def unwind (rounds : Nat) : Node → Leaving Value
  | .branch condition consequence alternative => do
      let value ← liftM (valueOf (operand alarm nested) condition)
      if value.isTruthy then
        let _ ← nested consequence
        pure .null
      else
        match alternative with
        | some alternative =>
            let _ ← nested alternative
            pure .null
        | none => pure .null
  | .loop condition body => whileTrue alarm nested condition body rounds
  | .result none => throw .null
  | .result (some node) => do
      let value ← liftM (valueOf (operand alarm nested) node)
      throw value
  | .block statements => inTurn nested .null statements
  | .program statements => inTurn nested .null statements
  | .call callee arguments => liftM (callCatching alarm nested limits callee arguments)
  | node => liftM (do
      let flow ← step (operand alarm nested) limits rounds node
      pure flow.carried)

end

/-- Evaluates a node, a return being an exception that only a call catches. -/
def evaluateUnwinding (alarm : RuntimeError) (limits : Limits) : Nat → Node → Leaving Value
  | 0, _ => liftM (unfinished : Run Value)
  | rounds + 1, node => unwind alarm (evaluateUnwinding alarm limits rounds) limits rounds node

/-! ## One node -/

/-- The evaluation of the operands is all that matters to a node that has no other children. -/
theorem valuesOf_congr {nested other : Node → Run Flow} {nodes : List Node}
    (same : ∀ node ∈ nodes, nested node = other node) :
    valuesOf nested nodes = valuesOf other nodes := by
  induction nodes with
  | nil => rfl
  | cons node rest ih =>
      rw [List.forall_mem_cons] at same
      simp only [valuesOf, valueOf, same.1, ih same.2]

theorem mapOf_congr {nested other : Node → Run Flow} {nodes : List (String × Node)}
    (same : ∀ node ∈ nodes.map Prod.snd, nested node = other node)
    (entries : List (String × Value)) :
    mapOf nested entries nodes = mapOf other entries nodes := by
  induction nodes generalizing entries with
  | nil => rfl
  | cons node rest ih =>
      rw [List.map_cons, List.forall_mem_cons] at same
      simp only [mapOf, valueOf, same.1, ih same.2]

/-- A node that is not a call, and out of which no return flows, evaluates its operands only. -/
theorem step_congr {nested other : Node → Run Flow} {limits : Limits} {rounds : Nat} {node : Node}
    (quiet : node.mayReturn = false) (no_call : node.isCall = false)
    (same : ∀ inner ∈ node.operandNodes, nested inner = other inner) :
    step nested limits rounds node = step other limits rounds node := by
  cases node with
  | branch | loop | result | block | program => cases quiet
  | call => cases no_call
  | list elements =>
      rw [operandNodes] at same
      simp only [step, valuesOf_congr same]
  | map entries =>
      rw [operandNodes] at same
      simp only [step, mapOf_congr same]
  | print value | index _ value => cases value <;> simp_all [step, valueOf, operandNodes]
  | _ => simp_all [step, valueOf, operandNodes]

section

variable {alarm : RuntimeError} {nested : Node → Leaving Value} {limits : Limits} {rounds : Nat}
  {node : Node}

theorem inTurn_flow (last : Value) (nodes : List Node) :
    (inTurn nested last nodes).flow = sequence (fun inner => (nested inner).flow) last nodes := by
  induction nodes generalizing last with
  | nil => simp [inTurn, sequence]
  | cons node rest ih =>
      simp only [inTurn, sequence, flow_bind]
      refine bind_congr fun flow => ?_
      cases flow with
      | value carried => exact ih carried
      | returned carried => rfl

theorem whileTrue_flow {condition body : Node}
    (same : operand alarm nested condition = (nested condition).flow) :
    (whileTrue alarm nested condition body rounds).flow
      = repeatWhile (fun inner => (nested inner).flow) condition body rounds := by
  induction rounds with
  | zero => rfl
  | succ rounds ih =>
      simp only [whileTrue, repeatWhile, flow_lift_bind, valueOf, same]
      refine bind_congr fun value => ?_
      split
      · rw [flow_bind]
        refine bind_congr fun flow => ?_
        cases flow with
        | value carried => exact ih
        | returned carried => rfl
      · rw [flow_pure]

/-- Where operands do not return, a node does the same in both evaluations. -/
theorem unwind_flow
    (same : ∀ inner ∈ node.operandNodes, operand alarm nested inner = (nested inner).flow) :
    (unwind alarm nested limits rounds node).flow
      = step (fun inner => (nested inner).flow) limits rounds node := by
  cases node with
  | branch condition consequence alternative =>
      have condition_same := same condition (by simp [operandNodes])
      simp only [unwind, step, flow_lift_bind, valueOf, condition_same]
      refine bind_congr fun value => ?_
      have after (inner : Node) : (nested inner >>= fun _ => pure Value.null).flow
          = (nested inner).flow >>= fun flow => pure flow.afterBranch := by
        rw [flow_bind]
        refine bind_congr fun flow => ?_
        cases flow <;> simp [Flow.afterBranch]
      split
      · exact after consequence
      · cases alternative with
        | none => exact flow_pure _
        | some alternative => exact after alternative
  | loop condition body => exact whileTrue_flow (same condition (by simp [operandNodes]))
  | result value =>
      cases value with
      | none => exact flow_throw _
      | some inner =>
          have inner_same := same inner (by simp [operandNodes])
          simp only [unwind, step, flow_lift_bind, valueOf, inner_same, flow_throw]
  | block statements | program statements => exact inTurn_flow .null statements
  | call callee arguments =>
      rw [operandNodes, List.forall_mem_cons] at same
      have callee_same : valueOf (operand alarm nested) callee
          = valueOf (fun inner => (nested inner).flow) callee := congrArg (· >>= _) same.1
      have calls : callCatching alarm nested limits callee arguments
          = callNode (fun inner => (nested inner).flow) limits callee arguments := by
        unfold callCatching callNode
        rw [callee_same]
        refine congrArg _ (funext fun value => ?_)
        cases value with
        | function parameters body => exact congrArg (· >>= _) (valuesOf_congr same.2)
        | _ => rfl
      rw [unwind, flow_lift, calls, step]
  | _ =>
      refine (flow_lift _).trans ?_
      rw [bind_assoc, step_congr rfl rfl same]
      simp only [pure_bind]
      exact (step_yields rfl).carried

theorem unwind_yields (quiet : node.mayReturn = false) :
    (unwind alarm nested limits rounds node).flow.Yields (∃ carried, · = Flow.value carried) := by
  have lifted (run : Run Value) :
      (flow (liftM run)).Yields (∃ carried, · = Flow.value carried) := by
    rw [flow_lift]
    exact .bind fun value => .pure ⟨value, rfl⟩
  cases node with
  | branch | loop | result | block | program => cases quiet
  | _ => exact lifted _

/-! ## Whole evaluations -/

/-- In the evaluation with exceptions expressions do not return either. -/
theorem operand_eq (expression : node.isExpression = true) :
    operand alarm (evaluateUnwinding alarm limits rounds) node
      = (evaluateUnwinding alarm limits rounds node).flow := by
  refine expected_eq_flow ?_
  cases rounds with
  | zero =>
      rw [evaluateUnwinding, flow_lift]
      exact .bind fun value => .pure ⟨value, rfl⟩
  | succ rounds => exact unwind_yields (mayReturn_of_isExpression expression)

/-- Both evaluations of a tree are the same if in the tree, and in all functions in scopes, the
operands are expressions. -/
theorem evaluateUnwinding_eq {machine : Machine} (within : node.ThroughoutProgram TakesExpressions)
    (confined : machine.Confined TakesExpressions) :
    (evaluateUnwinding alarm limits rounds node).flow machine
      = evaluate limits rounds node machine := by
  have stepped {rounds : Nat} {node : Node} {machine : Machine}
      (within : node.ThroughoutProgram TakesExpressions) :
      (evaluateUnwinding alarm limits (rounds + 1) node).flow machine
        = step (fun inner => (evaluateUnwinding alarm limits rounds inner).flow) limits rounds node
          machine :=
    congrFun (unwind_flow fun inner among => operand_eq (within.takesExpressions inner among)) _
  exact @eq_evaluate TakesExpressions limits rounds node machine
    (fun rounds node => (evaluateUnwinding alarm limits rounds node).flow) (fun _ => rfl)
    (fun within _ _ => stepped within) within confined

end

/-! ## Programs that were read -/

/-- **No return is lost in a program that was read.**  Nothing in the place of an operand returns,
in any part of the program and on any machine.  Every part of it does, on any machine, what it
does if a return is an exception that leaves all statements around it, and if a return out of
an operand is cause for alarm.  The same holds of the whole run of the program, calls and all,
where the functions in scopes are such as the parser builds. -/
theorem returns_of_parse {tokens : List Token} {tree : Node}
    (parsed : Grammar.parse tokens = .ok tree) (limits : Limits) (rounds : Nat) :
    (∀ part ∈ tree.parts, ∀ operand ∈ part.operandNodes, ∀ machine carried after,
      evaluate limits rounds operand machine ≠ .done (.returned carried) after)
    ∧ (∀ part ∈ tree.parts, ∀ alarm machine,
      (unwind alarm (fun inner => .ofFlow (evaluate limits rounds inner)) limits rounds part).flow
        machine = evaluate limits (rounds + 1) part machine)
    ∧ ∀ alarm machine, machine.Confined TakesExpressions →
      (evaluateUnwinding alarm limits rounds tree).flow machine
        = evaluate limits rounds tree machine := by
  have within := takesExpressions_of_parse parsed
  have yields {inner : Node} (expression : inner.isExpression = true) :=
    @evaluate_yields limits rounds inner expression
  refine ⟨?_, ?_, ?_⟩
  · intro part inside operand among machine carried after returned
    obtain ⟨_, impossible⟩ := yields (within part inside operand among) machine _ _ returned
    cases impossible
  · intro part inside alarm machine
    have flows : (fun inner => (ofFlow (evaluate limits rounds inner)).flow)
        = evaluate limits rounds := funext fun inner => flow_ofFlow _
    have stepped := @unwind_flow alarm (fun inner => ofFlow (evaluate limits rounds inner)) limits
      rounds part fun inner among => expected_eq_flow (by
        rw [flow_ofFlow]
        exact yields (within part inside inner among))
    rw [stepped, flows, evaluate]
  · intro alarm machine confined
    exact evaluateUnwinding_eq within.program confined

/-- A function that returns out of an `if` in a loop. -/
def Sample.returning : Node := .program
  [.assign ⟨"f", some 0⟩ (.function [⟨"n", some 13⟩] (.block [.loop (.boolean true) (.block
    [.branch (.identifier ⟨"n", some 35⟩) (.result (some (.identifier ⟨"n", some 45⟩))) none,
      .print (some (.identifier ⟨"n", some 54⟩))])])),
    .print (some (.call (.identifier ⟨"f", some 65⟩) [.integer 5]))]

theorem returns_of_parse_loop :
    ∃ tokens after,
      tokenize "f = function(n) \x7bwhile (true) \x7bif (n) return n; print n\x7d\x7d; print f(5)"
        = .ok tokens
      ∧ Grammar.parse tokens = .ok Sample.returning
      ∧ evaluate .default 20 Sample.returning (.start .new) = .done (.value .null) after
      ∧ after.printed = "5\n"
      ∧ (evaluateUnwinding .divisionByZero .default 20 Sample.returning).flow (.start .new)
        = .done (.value .null) after := by
  obtain ⟨tokens, scanned, parsed⟩ : ∃ tokens,
      tokenize "f = function(n) \x7bwhile (true) \x7bif (n) return n; print n\x7d\x7d; print f(5)"
        = .ok tokens
      ∧ Grammar.parse tokens = .ok Sample.returning := ⟨_, by cbv, by rfl⟩
  obtain ⟨after, ran, printed⟩ : ∃ after,
      evaluate .default 20 Sample.returning (.start .new) = .done (.value .null) after
      ∧ after.printed = "5\n" := ⟨_, by cbv, by rfl⟩
  have confined : (Machine.start .new).Confined TakesExpressions :=
    ⟨Nat.one_pos, .ofBindings (by simp)⟩
  obtain ⟨-, -, whole⟩ := returns_of_parse parsed .default 20
  exact ⟨tokens, after, scanned, parsed, ran, printed, (whole _ _ confined).trans ran⟩

end Evaluation

end Scriptlet
