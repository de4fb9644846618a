/-
# Value -- what programs compute with

A value is a number of one of two kinds, a text, a boolean, null, a list, a map
or a function.  Maps are dictionaries, sorted by key.  A function is its
parameters and its body and nothing else: names that are free in the body are
looked up where the function is called.
-/
import Scriptlet.Dictionary
import Scriptlet.Tree

namespace Scriptlet

set_option autoImplicit false

inductive Value where
  | integer (value : Int64)
  | float (value : Binary64)
  | text (value : String)
  | boolean (value : Bool)
  | null
  | list (items : List Value)
  | map (entries : List (String × Value))
  | function (parameters : List Name) (body : Node)

/-- The kinds of values, as error reports name them. -/
inductive Kind where
  | integer | float | text | boolean | null | list | map | function
  deriving DecidableEq, Repr

def Kind.describe : Kind → String
  | integer => "integer"
  | float => "float"
  | text => "text"
  | boolean => "boolean"
  | null => "null"
  | list => "list"
  | map => "map"
  | function => "function"

namespace Value

def kind : Value → Kind
  | integer _ => .integer
  | float _ => .float
  | text _ => .text
  | boolean _ => .boolean
  | null => .null
  | list _ => .list
  | map _ => .map
  | function _ _ => .function

/-- Whether a condition with this value holds: all values but false, null, the
zeros and the empty texts, lists and maps.  A NaN is not a zero. -/
def isTruthy : Value → Bool
  | integer i => i != 0
  | float x => !x.isZero
  | text s => s != ""
  | boolean b => b
  | null => false
  | list items => !items.isEmpty
  | map entries => !entries.isEmpty
  | function _ _ => true

/-- The float of a number. -/
def toFloat? : Value → Option Binary64
  | integer i => some (.ofInt i.toInt)
  | float x => some x
  | _ => none

end Value

end Scriptlet
