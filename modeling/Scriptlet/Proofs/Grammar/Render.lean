/-
# Proofs.Grammar.Render -- writing a tree as tokens

`Node.render` writes a tree as the tokens of a program, each node by its rule of the
grammar.  Parentheses stand around an operand exactly where it binds more loosely than its
place allows (`Node.fitted`, `Node.fittedTight`), and around an expression that would
begin a statement with a brace (`Node.fittedStatement`).  An empty `print` is written with
a pair of parentheses, and statements have one semicolon between them.

The tokens are made up and all stand at position zero, so what is read from them are the
names of the tree at that position (`Node.atStart`).
-/
import Scriptlet.Number.Decimal
import Scriptlet.Proofs.Grammar.Derivation
import Scriptlet.Proofs.Grammar.Spelled
import Scriptlet.Text.Quoted

namespace Scriptlet

set_option autoImplicit false

open Grammar

/-! ## Tokens -/

namespace Token

def ofInteger (value : Int64) : Token := ⟨.integer value, toString value.toInt, 0⟩

def ofFloat (value : Binary64) : Token := ⟨.float value, value.text, 0⟩

def ofString (value : String) : Token := ⟨.string value, Text.quote value, 0⟩

end Token

/-- Tokens between two brackets. -/
def bracketed (opening closing : Symbol) (tokens : List Token) : List Token :=
  .ofSymbol opening :: (tokens ++ [.ofSymbol closing])

abbrev inParens (tokens : List Token) : List Token := bracketed .leftParen .rightParen tokens

/-- Pieces with a symbol between them. -/
def joined (between : Symbol) : List (List Token) → List Token
  | [] => []
  | [piece] => piece
  | piece :: pieces => piece ++ .ofSymbol between :: joined between pieces

/-! ## Where operators stand -/

namespace Operator

/-- How an operator is written, before its operand or between its operands. -/
def symbol : Operator → Symbol
  | or => .orOr
  | and => .andAnd
  | not => .exclamation
  | negate => .minus
  | plus => .plus
  | minus => .minus
  | times => .star
  | divide => .slash
  | equal => .equalEqual
  | notEqual => .notEqual
  | lessThanEqual => .lessEqual
  | lessThan => .less
  | greaterThanEqual => .greaterEqual
  | greaterThan => .greater

/-- The level of an operator between two operands.  The signs never stand there. -/
def level : Operator → Level
  | or => .disjunction
  | and => .conjunction
  | equal | notEqual | lessThanEqual | lessThan | greaterThanEqual | greaterThan => .comparison
  | plus | minus => .sum
  | times | divide | not | negate => .product

end Operator

/-- The place of the left operand of a level: the level itself where operators lean to the
left. -/
def Grammar.Level.left : Level → Place
  | .comparison => Level.comparison.below
  | level => .level level

namespace Node

/-- The tightest place where an expression can stand without parentheses. -/
def place : Node → Place
  | binary operator _ _ => .level operator.level
  | _ => .signed

/-- Whether an expression can be called and indexed without parentheses. -/
def isTight : Node → Bool
  | binary .. | unary .. => false
  | _ => true

def isExpression : Node → Bool
  | print _ | assign .. | branch .. | loop .. | result _ | block _ | program _ => false
  | _ => true

/-- The tokens of an expression at a place. -/
def fitted (node : Node) (place : Place) (tokens : List Token) : List Token :=
  if place.rank ≤ node.place.rank then tokens else inParens tokens

/-- The tokens of an expression that is called or indexed. -/
def fittedTight (node : Node) (tokens : List Token) : List Token :=
  if node.isTight then tokens else inParens tokens

/-- The tokens of a statement. -/
def fittedStatement (node : Node) (tokens : List Token) : List Token :=
  if node.isExpression ∧ front? tokens = some (.symbol .leftBrace) then inParens tokens
  else tokens

/-! ## Whole trees -/

end Node

/-- The name at position zero. -/
def Name.atStart (name : Name) : Name := ⟨name.text, some 0⟩

namespace Node

mutual

/-- The tokens that write a tree. -/
def render (node : Node) : List Token :=
  match node with
  | integer value => [.ofInteger value]
  | float value => [.ofFloat value]
  | string value => [.ofString value]
  | boolean value => [.ofKeyword (if value then .trueWord else .falseWord)]
  | null => [.ofKeyword .nullWord]
  | identifier name => [.ofName name.text]
  | binary operator left right =>
      left.fitted operator.level.left left.render ++
        .ofSymbol operator.symbol :: right.fitted operator.level.below right.render
  | unary operator operand => .ofSymbol operator.symbol :: operand.fitted .signed operand.render
  | list elements => bracketed .leftBracket .rightBracket (joined .comma (renderAll elements))
  | map entries => bracketed .leftBrace .rightBrace (joined .comma (renderEntries entries))
  | print none => .ofKeyword .printWord :: inParens []
  | print (some value) => .ofKeyword .printWord :: value.render
  | assign target value => .ofName target.text :: .ofSymbol .equal :: value.render
  | branch condition consequence none =>
      .ofKeyword .ifWord :: (inParens condition.render ++
        consequence.fittedStatement consequence.render)
  | branch condition consequence (some alternative) =>
      .ofKeyword .ifWord :: (inParens condition.render ++
        (consequence.fittedStatement consequence.render ++
          .ofKeyword .elseWord :: alternative.fittedStatement alternative.render))
  | loop condition body =>
      .ofKeyword .whileWord :: (inParens condition.render ++ body.fittedStatement body.render)
  | result none => [.ofKeyword .returnWord]
  | result (some value) => .ofKeyword .returnWord :: value.render
  | block statements =>
      bracketed .leftBrace .rightBrace (joined .semicolon (renderStatements statements))
  | program statements => joined .semicolon (renderStatements statements)
  | function parameters body =>
      .ofKeyword .functionWord ::
        (inParens (joined .comma (parameters.map fun name => [.ofName name.text])) ++ body.render)
  | call callee arguments =>
      callee.fittedTight callee.render ++ inParens (joined .comma (renderAll arguments))
  | index base none => base.fittedTight base.render ++ bracketed .leftBracket .rightBracket []
  | index base (some position) =>
      base.fittedTight base.render ++ bracketed .leftBracket .rightBracket position.render
termination_by structural node

def renderAll (nodes : List Node) : List (List Token) :=
  match nodes with
  | [] => []
  | node :: nodes => node.render :: renderAll nodes
termination_by structural nodes

def renderStatements (nodes : List Node) : List (List Token) :=
  match nodes with
  | [] => []
  | node :: nodes => node.fittedStatement node.render :: renderStatements nodes
termination_by structural nodes

def renderEntries (entries : List (String × Node)) : List (List Token) :=
  match entries with
  | [] => []
  | entry :: entries => renderEntry entry :: renderEntries entries
termination_by structural entries

def renderEntry (entry : String × Node) : List Token :=
  match entry with
  | (key, value) => .ofString key :: .ofSymbol .colon :: value.render
termination_by structural entry

end

mutual

/-- The tree with all of its names at position zero. -/
def atStart (node : Node) : Node :=
  match node with
  | integer value => .integer value
  | float value => .float value
  | string value => .string value
  | boolean value => .boolean value
  | null => .null
  | identifier name => .identifier name.atStart
  | binary operator left right => .binary operator left.atStart right.atStart
  | unary operator operand => .unary operator operand.atStart
  | list elements => .list (atStartAll elements)
  | map entries => .map (atStartEntries entries)
  | print none => .print none
  | print (some value) => .print (some value.atStart)
  | assign target value => .assign target.atStart value.atStart
  | branch condition consequence none =>
      .branch condition.atStart consequence.atStart none
  | branch condition consequence (some alternative) =>
      .branch condition.atStart consequence.atStart (some alternative.atStart)
  | loop condition body => .loop condition.atStart body.atStart
  | result none => .result none
  | result (some value) => .result (some value.atStart)
  | block statements => .block (atStartAll statements)
  | program statements => .program (atStartAll statements)
  | function parameters body => .function (parameters.map Name.atStart) body.atStart
  | call callee arguments => .call callee.atStart (atStartAll arguments)
  | index base none => .index base.atStart none
  | index base (some position) => .index base.atStart (some position.atStart)
termination_by structural node

def atStartAll (nodes : List Node) : List Node :=
  match nodes with
  | [] => []
  | node :: nodes => node.atStart :: atStartAll nodes
termination_by structural nodes

def atStartEntries (entries : List (String × Node)) : List (String × Node) :=
  match entries with
  | [] => []
  | entry :: entries => atStartEntry entry :: atStartEntries entries
termination_by structural entries

def atStartEntry (entry : String × Node) : String × Node :=
  match entry with
  | (key, value) => (key, value.atStart)
termination_by structural entry

end

-- The equations of both are made here, once, and not while many proofs wait for them.
attribute [grind =] render atStart

mutual

/-- Whether something holds of a tree and of every tree in it. -/
def everywhere (holds : Node → Bool) (node : Node) : Bool :=
  holds node && match node with
  | binary _ left right => left.everywhere holds && right.everywhere holds
  | unary _ operand => operand.everywhere holds
  | list elements => everywhereAll holds elements
  | map entries => everywhereEntries holds entries
  | print (some value) | assign _ value | result (some value) => value.everywhere holds
  | branch condition consequence none =>
      condition.everywhere holds && consequence.everywhere holds
  | branch condition consequence (some alternative) =>
      condition.everywhere holds && (consequence.everywhere holds && alternative.everywhere holds)
  | loop condition body => condition.everywhere holds && body.everywhere holds
  | block statements | program statements => everywhereAll holds statements
  | function _ body => body.everywhere holds
  | call callee arguments => callee.everywhere holds && everywhereAll holds arguments
  | index base none => base.everywhere holds
  | index base (some position) => base.everywhere holds && position.everywhere holds
  | _ => true
termination_by structural node

def everywhereAll (holds : Node → Bool) (nodes : List Node) : Bool :=
  match nodes with
  | [] => true
  | node :: nodes => node.everywhere holds && everywhereAll holds nodes
termination_by structural nodes

def everywhereEntries (holds : Node → Bool) (entries : List (String × Node)) : Bool :=
  match entries with
  | [] => true
  | entry :: entries => everywhereEntry holds entry && everywhereEntries holds entries
termination_by structural entries

def everywhereEntry (holds : Node → Bool) (entry : String × Node) : Bool :=
  match entry with
  | (_, value) => value.everywhere holds
termination_by structural entry

end

/-- The operands of one level that stand side by side at the front of an expression. -/
def operands (level : Level) : Node → Nat
  | binary operator left _ => if operator.level = level then left.operands level + 1 else 1
  | _ => 1

/-- Whether the chain that ends with the operator of this node is not too long. -/
def chainFits : Node → Bool
  | binary operator left right =>
      operator.level = .comparison
        ∨ (binary operator left right).operands operator.level ≤ maxNesting
  | _ => true

end Node

end Scriptlet
