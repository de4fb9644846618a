/-
# Tree -- programs as trees

A `Node` is a statement or an expression; the grammar builds both into one type
because an expression may stand wherever a statement may.  The evaluator takes
every tree, also one that no text is read as, such as a statement under an
operator.

`Node.same` is the equality of the language: names are compared by their text
and not by where they were read, and floats by value, so that a NaN literal
differs even from itself.
-/
import Scriptlet.Number.Binary64

namespace Scriptlet

set_option autoImplicit false

/-! ## Operators and names -/

inductive Operator where
  | or | and | not | negate
  | plus | minus | times | divide
  | equal | notEqual | lessThanEqual | lessThan | greaterThanEqual | greaterThan
  deriving DecidableEq, Repr

/-- How an error report names an operator. -/
def Operator.spelling : Operator → String
  | or => "||"
  | and => "&&"
  | not => "!"
  | negate => "negate"
  | plus => "+"
  | minus => "-"
  | times => "*"
  | divide => "/"
  | equal => "=="
  | notEqual => "!="
  | lessThanEqual => "<="
  | lessThan => "<"
  | greaterThanEqual => ">="
  | greaterThan => ">"

/-- A name, and the byte offset at which it was read, if it was read. -/
structure Name where
  text : String
  position : Option Nat
  deriving DecidableEq, Repr

namespace Name

/-- A name that was not read from a text. -/
def ofText (text : String) : Name := ⟨text, none⟩

/-- The name in a listing of a tree. -/
def describe (name : Name) : String := "Name(\"" ++ name.text ++ "\")"

/-- Two lists of names with the same texts. -/
def sameAll (names others : List Name) : Bool := names.map Name.text == others.map Name.text

end Name

/-! ## Trees -/

/-- Statements and expressions. -/
inductive Node where
  | integer (value : Int64)
  | float (value : Binary64)
  | string (value : String)
  | boolean (value : Bool)
  | null
  | identifier (name : Name)
  | binary (operator : Operator) (left right : Node)
  | unary (operator : Operator) (operand : Node)
  | list (elements : List Node)
  | map (entries : List (String × Node))
  | print (value : Option Node)
  | assign (target : Name) (value : Node)
  | branch (condition consequence : Node) (alternative : Option Node)
  | loop (condition body : Node)
  | result (value : Option Node)
  | block (statements : List Node)
  | program (statements : List Node)
  | function (parameters : List Name) (body : Node)
  | call (callee : Node) (arguments : List Node)
  | index (base : Node) (position : Option Node)

mutual

/-- Whether two trees are the same program. -/
def Node.same (x y : Node) : Bool :=
  match x, y with
  | .integer a, .integer b => a == b
  | .float a, .float b => a.equals b
  | .string a, .string b => a == b
  | .boolean a, .boolean b => a == b
  | .null, .null => true
  | .identifier a, .identifier b => a.text == b.text
  | .binary f a b, .binary g c d => f == g && a.same c && b.same d
  | .unary f a, .unary g b => f == g && a.same b
  | .list a, .list b => Node.sameAll a b
  | .map a, .map b => Node.sameEntries a b
  | .print a, .print b => Node.sameOptions a b
  | .assign m a, .assign n b => m.text == n.text && a.same b
  | .branch a b c, .branch d e f => a.same d && b.same e && Node.sameOptions c f
  | .loop a b, .loop c d => a.same c && b.same d
  | .result a, .result b => Node.sameOptions a b
  | .block a, .block b => Node.sameAll a b
  | .program a, .program b => Node.sameAll a b
  | .function m a, .function n b => Name.sameAll m n && a.same b
  | .call a b, .call c d => a.same c && Node.sameAll b d
  | .index a b, .index c d => a.same c && Node.sameOptions b d
  | _, _ => false
termination_by structural x

def Node.sameAll (xs ys : List Node) : Bool :=
  match xs, ys with
  | [], [] => true
  | x :: xs, y :: ys => x.same y && Node.sameAll xs ys
  | _, _ => false
termination_by structural xs

def Node.sameEntries (xs ys : List (String × Node)) : Bool :=
  match xs, ys with
  | [], [] => true
  | x :: xs, y :: ys => Node.sameEntry x y && Node.sameEntries xs ys
  | _, _ => false
termination_by structural xs

def Node.sameEntry (x y : String × Node) : Bool :=
  match x, y with
  | (key, a), (other, b) => key == other && a.same b
termination_by structural x

def Node.sameOptions (x y : Option Node) : Bool :=
  match x, y with
  | none, none => true
  | some a, some b => a.same b
  | _, _ => false
termination_by structural x

end

example : (Node.float Binary64.nan).same (.float Binary64.nan) = false := by decide
example : (Node.identifier ⟨"a", some 3⟩).same (.identifier (.ofText "a")) = true := by decide

end Scriptlet
