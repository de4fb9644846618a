/-
# Evaluation.Evaluate -- running a tree

Evaluating a node yields a `Flow`: a value, or a value on its way out of the
enclosing function because of a `return`.  Operands are evaluated from left to
right, all of them before their operator, and the first failure ends the run.

A function is called in a new scope around which the caller's scopes stand, so a
name that is free in its body means what it means to the caller.  The scope is
left and the count of active calls restored whether the body ends or fails, and
a `return` in the body ends there.

`step` says what one node does in terms of `nested`, the evaluation of the nodes
inside it.  `evaluate` ties the knot with an allowance of rounds, which keeps the
recursion structural.  A loop or a nest of nodes that needs more is unfinished;
an allowance that suffices gives the same outcome as every larger one.
-/
import Scriptlet.Evaluation.Indexing
import Scriptlet.Evaluation.Operators
import Scriptlet.Evaluation.Run

namespace Scriptlet

set_option autoImplicit false

/-- What a node yields. -/
inductive Flow where
  | value (carried : Value)
  | returned (carried : Value)

namespace Flow

/-- The value, however it flows. -/
def carried : Flow → Value
  | value carried => carried
  | returned carried => carried

/-- The flow out of a branch: its value is dropped, and only a return passes. -/
def afterBranch : Flow → Flow
  | value _ => value .null
  | returned carried => returned carried

end Flow

namespace Evaluation

open Run

section

variable (nested : Node → Run Flow)

/-- The value of a node in the place of an operand. -/
def valueOf (node : Node) : Run Value := do
  let flow ← nested node
  pure flow.carried

/-- The values of some nodes, from left to right. -/
def valuesOf : List Node → Run (List Value)
  | [] => pure []
  | node :: rest => do
      let value ← valueOf nested node
      let values ← valuesOf rest
      pure (value :: values)

/-- The map of some entries; the last one of each key counts. -/
def mapOf (entries : List (String × Value)) : List (String × Node) → Run (List (String × Value))
  | [] => pure entries
  | (key, node) :: rest => do
      let value ← valueOf nested node
      mapOf (Dictionary.insert key value entries) rest

/-- Statements one after the other, up to the first that returns.  Their value is that
of the last one. -/
def sequence (last : Value) : List Node → Run Flow
  | [] => pure (.value last)
  | node :: rest => do
      match ← nested node with
      | .value carried => sequence carried rest
      | .returned carried => pure (.returned carried)

/-- The body for as long as the condition holds, at most the given number of rounds. -/
def repeatWhile (condition body : Node) : Nat → Run Flow
  | 0 => unfinished
  | rounds + 1 => do
      if (← valueOf nested condition).isTruthy then
        match ← nested body with
        | .value _ => repeatWhile condition body rounds
        | .returned carried => pure (.returned carried)
      else pure (.value .null)

variable (limits : Limits)

/-- Writes a value, or nothing, and ends the line. -/
def printLine : Option Value → Run Unit
  | some value => write limits.sink (value.pieces false ++ ["\n"])
  | none => write limits.sink ["\n"]

/-- Binds parameters to arguments in the current scope. -/
def bindAll (environment : Environment) : List Name → List Value → Environment
  | name :: names, value :: values => bindAll (environment.assign name.text value) names values
  | _, _ => environment

/-- The machine inside a call: a new scope with the arguments, one more active call. -/
def enterCall (parameters : List Name) (arguments : List Value) (machine : Machine) : Machine :=
  { machine with
    environment := bindAll machine.environment.enter.2 parameters arguments
    depth := machine.depth + 1 }

/-- The machine after a call from the scope `caller`. -/
def leaveCall (caller : Nat) (machine : Machine) : Machine :=
  { machine with
    environment := machine.environment.leave caller
    depth := machine.depth - 1 }

/-- Calls a function. -/
def call (parameters : List Name) (body : Node) (arguments : List Value) : Run Value :=
  fun machine =>
    if parameters.length ≠ arguments.length then
      .failed (.argumentCount parameters.length arguments.length) machine
    else if limits.calls ≤ machine.depth then
      .failed (.recursionLimit limits.calls) machine
    else
      let caller := machine.environment.current
      match nested body (enterCall parameters arguments machine) with
      | .done flow after => .done flow.carried (leaveCall caller after)
      | .failed error after => .failed error (leaveCall caller after)
      | .unfinished => .unfinished

/-- Calls a value, which has to be a function. -/
def callNode (callee : Node) (arguments : List Node) : Run Value := do
  match ← valueOf nested callee with
  | .function parameters body =>
      let values ← valuesOf nested arguments
      call nested limits parameters body values
  | other => fail (.type (.callee other.kind))

/-- What one node does, given the evaluation of the nodes inside it; a loop has at
most the given number of rounds. -/
def step (rounds : Nat) : Node → Run Flow
  | .integer value => pure (.value (.integer value))
  | .float value => pure (.value (.float value))
  | .string value => pure (.value (.text value))
  | .boolean value => pure (.value (.boolean value))
  | .null => pure (.value .null)
  | .identifier name => do
      let value ← lookup name.text
      pure (.value value)
  | .binary operator left right => do
      let left ← valueOf nested left
      let right ← valueOf nested right
      let value ← ofExcept (operator.binary left right)
      pure (.value value)
  | .unary operator operand => do
      let operand ← valueOf nested operand
      let value ← ofExcept (operator.unary operand)
      pure (.value value)
  | .list elements => do
      let items ← valuesOf nested elements
      pure (.value (.list items))
  | .map entries => do
      let entries ← mapOf nested [] entries
      pure (.value (.map entries))
  | .print none => do
      printLine limits none
      pure (.value .null)
  | .print (some node) => do
      let value ← valueOf nested node
      printLine limits (some value)
      pure (.value .null)
  | .assign target node => do
      let value ← valueOf nested node
      assign target.text value
      pure (.value .null)
  | .branch condition consequence alternative => do
      if (← valueOf nested condition).isTruthy then
        let flow ← nested consequence
        pure flow.afterBranch
      else
        match alternative with
        | some alternative =>
            let flow ← nested alternative
            pure flow.afterBranch
        | none => pure (.value .null)
  | .loop condition body => repeatWhile nested condition body rounds
  | .result none => pure (.returned .null)
  | .result (some node) => do
      let value ← valueOf nested node
      pure (.returned value)
  | .block statements => sequence nested .null statements
  | .program statements => sequence nested .null statements
  | .function parameters body => pure (.value (.function parameters body))
  | .call callee arguments => do
      let value ← callNode nested limits callee arguments
      pure (.value value)
  | .index base none => do
      let base ← valueOf nested base
      pure (.value base)
  | .index base (some position) => do
      let base ← valueOf nested base
      let position ← valueOf nested position
      let value ← ofExcept (base.indexed position)
      pure (.value value)

end

/-- Evaluates a node within an allowance of rounds. -/
def evaluate (limits : Limits) : Nat → Node → Run Flow
  | 0, _ => unfinished
  | rounds + 1, node => step (evaluate limits rounds) limits rounds node

end Evaluation

end Scriptlet
