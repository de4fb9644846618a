/-
# Evaluation.Run -- runs that print, bind names, fail and may not end

A `Run` changes a `Machine`: the scopes of a session, the number of calls that
are active, and all that has been printed.  It ends with a result or with an
error, and either way leaves a machine behind; or it is still under way when its
allowance of rounds is used up (`unfinished`).

`Limits` are what a run is held to: the number of calls that may be active at
once, and the sink that takes what is printed.  A sink may fill up.  It then
refuses the next write, of which nothing is written, and the run fails.
-/
import Scriptlet.Environment
import Scriptlet.Evaluation.RuntimeError
import Scriptlet.Value.Display

namespace Scriptlet

set_option autoImplicit false

/-- A sink, given by the texts after which it takes no more. -/
abbrev Sink := String → Bool

namespace Sink

/-- The sink that never fills up. -/
def endless : Sink := fun _ => false

/-- The sink that is full once it holds a number of complete lines. -/
def ofLines (lines : Nat) : Sink := fun printed => lines ≤ printed.toList.count '\n'

end Sink

/-- What a run is held to. -/
structure Limits where
  calls : Nat
  sink : Sink

/-- At most two hundred calls at once, and a sink that never fills up. -/
def Limits.default : Limits := ⟨200, .endless⟩

/-- What a run changes. -/
structure Machine where
  environment : Environment
  depth : Nat
  printed : String

/-- A machine at the start of an evaluation. -/
def Machine.start (environment : Environment) : Machine := ⟨environment, 0, ""⟩

/-- How a run ends, if it does. -/
inductive Outcome (α : Type) where
  | done (result : α) (machine : Machine)
  | failed (error : RuntimeError) (machine : Machine)
  | unfinished

/-- A computation on a machine. -/
def Run (α : Type) := Machine → Outcome α

namespace Run

variable {α β : Type}

@[inline] protected def pure (result : α) : Run α := fun machine => .done result machine

@[inline] protected def bind (first : Run α) (next : α → Run β) : Run β := fun machine =>
  match first machine with
  | .done result after => next result after
  | .failed error after => .failed error after
  | .unfinished => .unfinished

instance : Monad Run where
  pure := Run.pure
  bind := Run.bind

/-- Fails with an error. -/
@[inline] def fail (error : RuntimeError) : Run α := fun machine => .failed error machine

/-- Is not finished, whatever the machine. -/
def unfinished : Run α := fun _ => .unfinished

/-- A result that is known already, or an error. -/
@[inline] def ofExcept : Except RuntimeError α → Run α
  | .ok result => Run.pure result
  | .error error => fail error

/-- Binds a name in the current scope. -/
def assign (name : String) (value : Value) : Run Unit := fun machine =>
  .done () { machine with environment := machine.environment.assign name value }

/-- Looks a name up. -/
def lookup (name : String) : Run Value := fun machine =>
  match machine.environment.lookup? name with
  | some value => .done value machine
  | none => .failed (.unknownIdentifier name) machine

/-- Writes pieces of text one after the other, up to the first that the sink
refuses. -/
def write (sink : Sink) : List String → Run Unit
  | [] => Run.pure ()
  | piece :: rest => fun machine =>
      if sink machine.printed then .failed .sinkFull machine
      else write sink rest { machine with printed := machine.printed ++ piece }

end Run

end Scriptlet
