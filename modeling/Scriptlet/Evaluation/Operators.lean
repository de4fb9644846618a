/-
# Evaluation.Operators -- what operators do with values

Arithmetic on two integers is exact: a result that no integer of the language
holds is continued as a float, computed from the floats of the operands, and
never wraps.  With a float among the operands both are taken as floats.  Division
is that of real numbers: it gives an integer only where the quotient is one, and
a zero divisor of either kind is an error.

`+` also joins texts and lists.  Comparisons order numbers and texts; a NaN
compares false with everything.  `&&` and `||` yield one of their operands.
-/
import Scriptlet.Evaluation.RuntimeError
import Scriptlet.Value.Equality

namespace Scriptlet.Operator

set_option autoImplicit false

/-- The error for operands of these kinds. -/
def mismatch (operator : Operator) (left right : Value) : RuntimeError :=
  .type (.operands operator left.kind right.kind)

/-- An integer result, or the float in its place if it does not fit. -/
@[macro_inline] def exactOr (result : Int) (approximation : Binary64) : Value :=
  match Integer.ofExact? result with
  | some word => .integer word
  | none => .float approximation

/-- An operation on numbers, given what it does with integers and with floats. -/
def arithmetic (operator : Operator) (onIntegers : Int → Int → Int)
    (onFloats : Binary64 → Binary64 → Binary64) (left right : Value) :
    Except RuntimeError Value :=
  match left, right with
  | .integer a, .integer b =>
      .ok (exactOr (onIntegers a.toInt b.toInt) (onFloats (.ofInt a.toInt) (.ofInt b.toInt)))
  | _, _ =>
      match left.toFloat?, right.toFloat? with
      | some a, some b => .ok (.float (onFloats a b))
      | _, _ => .error (operator.mismatch left right)

/-- The sum of numbers, and one text or list after the other. -/
def add (left right : Value) : Except RuntimeError Value :=
  match left, right with
  | .text a, .text b => .ok (.text (a ++ b))
  | .list a, .list b => .ok (.list (a ++ b))
  | _, _ => arithmetic .plus (· + ·) .add left right

/-- The quotient of numbers. -/
def quotient (left right : Value) : Except RuntimeError Value :=
  match left, right with
  | .integer a, .integer b =>
      let approximation := (Binary64.ofInt a.toInt).div (.ofInt b.toInt)
      if b.toInt = 0 then .error .divisionByZero
      else if Integer.remainder? a.toInt b.toInt = some 0 then
        .ok (exactOr (a.toInt.tdiv b.toInt) approximation)
      else .ok (.float approximation)
  | _, _ =>
      match left.toFloat?, right.toFloat? with
      | some a, some b => if b.isZero then .error .divisionByZero else .ok (.float (a.div b))
      | _, _ => .error (mismatch .divide left right)

/-- How two numbers or two texts are ordered; a NaN is in no order with anything. -/
def order (operator : Operator) (left right : Value) : Except RuntimeError (Option Ordering) :=
  match left, right with
  | .integer a, .integer b => .ok (some (compare a.toInt b.toInt))
  | .text a, .text b => .ok (some (compare a b))
  | _, _ =>
      match left.toFloat?, right.toFloat? with
      | some a, some b => .ok (a.order? b)
      | _, _ => .error (operator.mismatch left right)

/-- Two values in one of the given orders. -/
def compared (operator : Operator) (holds : Ordering → Bool) (left right : Value) :
    Except RuntimeError Value := do
  pure (.boolean ((← operator.order left right).any holds))

/-- What a binary operator yields.  The two operators of one operand fail here. -/
def binary (operator : Operator) (left right : Value) : Except RuntimeError Value :=
  match operator with
  | .and => .ok (if left.isTruthy then right else left)
  | .or => .ok (if left.isTruthy then left else right)
  | .equal => .ok (.boolean (left.looselyEquals right))
  | .notEqual => .ok (.boolean !(left.looselyEquals right))
  | .lessThan => compared .lessThan Ordering.isLT left right
  | .lessThanEqual => compared .lessThanEqual Ordering.isLE left right
  | .greaterThan => compared .greaterThan Ordering.isGT left right
  | .greaterThanEqual => compared .greaterThanEqual Ordering.isGE left right
  | .plus => add left right
  | .minus => arithmetic .minus (· - ·) .sub left right
  | .times => arithmetic .times (· * ·) .mul left right
  | .divide => quotient left right
  | .not => .error (.unknownOperator .not)
  | .negate => .error (.unknownOperator .negate)

/-- What an operator yields on a single operand.  All but two fail here. -/
def unary (operator : Operator) (operand : Value) : Except RuntimeError Value :=
  match operator with
  | .not => .ok (.boolean !operand.isTruthy)
  | .negate =>
      match operand with
      | .integer i => .ok (exactOr (-i.toInt) (Binary64.ofInt i.toInt).neg)
      | .float x => .ok (.float x.neg)
      | _ => .error (.type (.negation operand.kind))
  | _ => .error (.unknownOperator operator)

example : binary .divide (.integer 6) (.integer 2) = .ok (.integer 3) := by rfl
example : binary .lessThan (.text "B") (.text "a") = .ok (.boolean true) := by rfl

end Scriptlet.Operator
