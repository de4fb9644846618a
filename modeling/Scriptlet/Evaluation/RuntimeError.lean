/-
# Evaluation.RuntimeError -- why an evaluation fails

The causes for which a program fails while it runs, and their wording.  A fault
of types carries the kinds of values involved and not their text.
-/
import Scriptlet.Number.Decimal
import Scriptlet.Value

namespace Scriptlet

set_option autoImplicit false

/-- An operation on a value of a kind that it does not take. -/
inductive TypeFault where
  | operands (operator : Operator) (left right : Kind)
  | negation (operand : Kind)
  | callee (kind : Kind)
  | fractionalIndex (index : Binary64)
  | textIndex (base : Kind)
  | numericIndex (base : Kind)
  | indexKind (kind : Kind)
  deriving DecidableEq, Repr

def TypeFault.describe : TypeFault → String
  | operands operator left right =>
      "unsupported operand types for " ++ operator.spelling ++ ": " ++ left.describe ++ " and "
        ++ right.describe
  | negation operand => "bad operand type for negation: " ++ operand.describe
  | callee kind => kind.describe ++ " is not callable"
  | fractionalIndex index => "index must be integral, got " ++ index.text
  | textIndex base => "text index requires a map, got " ++ base.describe
  | numericIndex base => "numeric index requires a list, got " ++ base.describe
  | indexKind kind => kind.describe ++ " cannot be used as an index"

/-- Why an evaluation fails. -/
inductive RuntimeError where
  | unknownIdentifier (name : String)
  | type (fault : TypeFault)
  | divisionByZero
  | indexOutOfRange (index : Int64) (length : Nat)
  | keyNotFound (key : String)
  | unknownOperator (operator : Operator)
  | argumentCount (expected found : Nat)
  | recursionLimit (limit : Nat)
  | sinkFull
  deriving DecidableEq, Repr

def RuntimeError.message : RuntimeError → String
  | unknownIdentifier name => "unknown identifier '" ++ name ++ "'"
  | type fault => "type error: " ++ fault.describe
  | divisionByZero => "division by zero"
  | indexOutOfRange index length =>
      "index " ++ toString index.toInt ++ " out of range for length " ++ toString length
  | keyNotFound key => "key \"" ++ key ++ "\" not found"
  | unknownOperator operator => "unknown operator '" ++ operator.spelling ++ "'"
  | argumentCount expected found =>
      "function expects " ++ toString expected ++ " argument(s), got " ++ toString found
  | recursionLimit limit => "call depth exceeds " ++ toString limit ++ " frames"
  | sinkFull => "could not write output: sink full"

end Scriptlet
