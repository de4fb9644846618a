/-
# Grammar.Rules -- the rules of the grammar

From the loosest binding to the tightest:

* a program is a list of statements, which are separated by semicolons and may
  be followed by any number of them;
* a statement is one of `print`, `if`, `while`, `return`, `function` with a name,
  a block, or an expression, after which an equals sign makes it an assignment;
* an expression is a chain of `||` over chains of `&&` over comparisons over
  chains of `+` and `-` over chains of `*` and `/` over signed operands.  Chains
  lean to the left and have at most `maxNesting` operands; a comparison has one
  operator at most;
* a signed operand is a run of `-` and `!` before a primary with any number of
  calls and indices after it.

A statement that begins with a brace is a block, and elsewhere a brace begins a
map.  An `else` belongs to the nearest `if`.

Rules that contain each other do so through `nested`, which stands for the rules
one level down.  `phrase` ties the knot, with a budget of levels that keeps the
recursion structural: each level has taken a token before it enters the next,
and each round of a repetition takes one, so a budget above the number of tokens
never runs out.
-/
import Scriptlet.Grammar.Nesting
import Scriptlet.Grammar.Parser

namespace Scriptlet.Grammar

open Scriptlet.Parser

set_option autoImplicit false

/-! ## Operators -/

/-- The levels of binary operators, from the loosest to the tightest. -/
inductive Level where
  | disjunction | conjunction | comparison | sum | product
  deriving DecidableEq, Repr

/-- The operator of a level that a terminal writes. -/
def Level.operator? : Level → Terminal → Option Operator
  | disjunction, .symbol .orOr => some .or
  | conjunction, .symbol .andAnd => some .and
  | comparison, .symbol .equalEqual => some .equal
  | comparison, .symbol .notEqual => some .notEqual
  | comparison, .symbol .less => some .lessThan
  | comparison, .symbol .greater => some .greaterThan
  | comparison, .symbol .lessEqual => some .lessThanEqual
  | comparison, .symbol .greaterEqual => some .greaterThanEqual
  | sum, .symbol .plus => some .plus
  | sum, .symbol .minus => some .minus
  | product, .symbol .star => some .times
  | product, .symbol .slash => some .divide
  | _, _ => none

/-- The operator that a sign before an operand writes. -/
def signOperator? : Terminal → Option Operator
  | .symbol .minus => some .negate
  | .symbol .exclamation => some .not
  | _ => none

/-- The operator of a level if one is ahead. -/
def operatorAhead? (level : Level) : Parser (Option Operator) := do
  pure ((← ahead).bind level.operator?)

/-- The rest of a chain after its left part: further operators of the level with
their operands, at most `room` of them. -/
def chainAfter (level : Level) (operand : Parser Node) : Nat → Node → Parser Node
  | 0, left => do
      match ← operatorAhead? level with
      | none => pure left
      | some _ => fail .shallowerNesting
  | room + 1, left => do
      match ← operatorAhead? level with
      | none => pure left
      | some operator =>
          skip
          let right ← operand
          chainAfter level operand room (.binary operator left right)

/-- Operands with operators of one level between them. -/
def chain (level : Level) (operand : Parser Node) : Parser Node := do
  let first ← operand
  chainAfter level operand (maxNesting - 1) first

/-- One operand, or two with a comparison between them. -/
def comparison (operand : Parser Node) : Parser Node := do
  let left ← operand
  match ← operatorAhead? .comparison with
  | none => pure left
  | some operator =>
      skip
      let right ← operand
      pure (.binary operator left right)

/-- A run of signs before an operand; the last sign applies first. -/
def signed (operand : Parser Node) : List Token → Except SyntaxError (Node × List Token)
  | [] => operand []
  | token :: rest =>
      match signOperator? token.terminal with
      | none => operand (token :: rest)
      | some operator => do
          let (node, after) ← signed operand rest
          pure (.unary operator node, after)

/-! ## Expressions -/

/-- The two rules that contain themselves. -/
inductive Phrase where
  | expression
  | statement
  deriving DecidableEq, Repr

section

variable (budget : Nat) (nested : Phrase → Parser Node)

/-- An expression in parentheses. -/
def parenthesized : Parser Node := do
  symbol .leftParen
  let node ← nested .expression
  symbol .rightParen
  pure node

/-- Whether a list of statements ends ahead. -/
def endsStatements : Option Terminal → Bool
  | some .endMarker | some (.symbol .rightBrace) => true
  | _ => false

/-- Drops all semicolons ahead. -/
def skipSemicolons : Parser Unit := fun tokens =>
  .ok ((), tokens.dropWhile fun token => token.terminal = .symbol .semicolon)

/-- Statements with semicolons between and after them; at most `rounds` of them. -/
def statements (statement : Parser Node) : Nat → Parser (List Node)
  | 0 => fail .expression
  | rounds + 1 => do
      if endsStatements (← ahead) then pure []
      else
        let first ← statement
        if ← accept .semicolon then
          skipSemicolons
          let others ← statements statement rounds
          pure (first :: others)
        else pure [first]

/-- Statements in braces. -/
def block : Parser Node := do
  symbol .leftBrace
  let body ← statements (nested .statement) budget
  symbol .rightBrace
  pure (.block body)

/-- The parameters and the body of a function. -/
def functionTail : Parser Node := do
  symbol .leftParen
  let parameters ← listOf budget name .rightParen
  let body ← block budget nested
  pure (.function parameters body)

/-- One entry of a map. -/
def entry : Parser (String × Node) := do
  match ← ahead with
  | some (.string key) =>
      skip
      symbol .colon
      let value ← nested .expression
      pure (key, value)
  | _ => fail .string

/-- A literal, a name, a function, or something in brackets. -/
def primary : Parser Node := do
  match ← ahead with
  | some (.integer value) => skip; pure (.integer value)
  | some (.float value) => skip; pure (.float value)
  | some (.string value) => skip; pure (.string value)
  | some .name => let target ← name; pure (.identifier target)
  | some (.keyword .trueWord) => skip; pure (.boolean true)
  | some (.keyword .falseWord) => skip; pure (.boolean false)
  | some (.keyword .nullWord) => skip; pure .null
  | some (.keyword .functionWord) => skip; functionTail budget nested
  | some (.symbol .leftParen) => parenthesized nested
  | some (.symbol .leftBracket) =>
      skip
      let elements ← listOf budget (nested .expression) .rightBracket
      pure (.list elements)
  | some (.symbol .leftBrace) =>
      skip
      let entries ← listOf budget (entry nested) .rightBrace
      pure (.map entries)
  | _ => fail .expression

/-- The calls and indices after a primary; at most `rounds` of them. -/
def suffixes : Nat → Node → Parser Node
  | 0, _ => fail .expression
  | rounds + 1, node => do
      if ← accept .leftParen then
        let arguments ← listOf budget (nested .expression) .rightParen
        suffixes rounds (.call node arguments)
      else if ← accept .leftBracket then
        if ← accept .rightBracket then suffixes rounds (.index node none)
        else
          let position ← nested .expression
          symbol .rightBracket
          suffixes rounds (.index node (some position))
      else pure node

/-- A primary with its calls and indices. -/
def operand : Parser Node := do
  let base ← primary budget nested
  suffixes budget nested budget base

/-- Signed operands and the five levels of operators over them. -/
def expression : Parser Node :=
  chain .disjunction <| chain .conjunction <| comparison <| chain .sum <| chain .product <|
    signed (operand budget nested)

/-! ## Statements -/

/-- Whether a statement without its optional expression ends ahead. -/
def endsStatement : Option Terminal → Bool
  | some (.symbol .semicolon) => true
  | terminal => endsStatements terminal

/-- Takes a pair of empty parentheses if it is ahead, and tells whether it was. -/
def acceptEmptyParens : Parser Bool := fun tokens =>
  match tokens with
  | first :: second :: rest =>
      if first.terminal = .symbol .leftParen ∧ second.terminal = .symbol .rightParen then
        .ok (true, rest)
      else .ok (false, tokens)
  | _ => .ok (false, tokens)

/-- What follows `print`. -/
def printTail : Parser Node := do
  if ← acceptEmptyParens then pure (.print none)
  else if endsStatement (← ahead) then pure (.print none)
  else
    let value ← expression budget nested
    pure (.print (some value))

/-- What follows `return`. -/
def returnTail : Parser Node := do
  if endsStatement (← ahead) then pure (.result none)
  else
    let value ← expression budget nested
    pure (.result (some value))

/-- What follows `if`. -/
def ifTail : Parser Node := do
  let condition ← parenthesized nested
  let consequence ← nested .statement
  if (← ahead) = some (.keyword .elseWord) then
    skip
    let alternative ← nested .statement
    pure (.branch condition consequence (some alternative))
  else pure (.branch condition consequence none)

/-- What follows `while`. -/
def whileTail : Parser Node := do
  let condition ← parenthesized nested
  let body ← nested .statement
  pure (.loop condition body)

/-- A named function: an assignment of the function to its name. -/
def functionStatement : Parser Node := do
  skip
  let target ← name
  let value ← functionTail budget nested
  pure (.assign target value)

/-- An expression, or an assignment to it if it is a name and an equals sign
follows. -/
def assignment : Parser Node := do
  let target ← expression budget nested
  if (← ahead) = some (.symbol .equal) then
    match target with
    | .identifier target =>
        skip
        let value ← expression budget nested
        pure (.assign target value)
    | _ => fail .assignmentTarget
  else pure target

/-- The terminal after the one ahead. -/
def secondAhead : Parser (Option Terminal) := fun tokens =>
  .ok (tokens.tail.head?.map Token.terminal, tokens)

/-- A statement, told apart by its first token; of `function` the second one decides
whether it names the function. -/
def statement : Parser Node := do
  match ← ahead with
  | some (.keyword .printWord) => skip; printTail budget nested
  | some (.keyword .ifWord) => skip; ifTail nested
  | some (.keyword .whileWord) => skip; whileTail nested
  | some (.keyword .returnWord) => skip; returnTail budget nested
  | some (.keyword .functionWord) =>
      if (← secondAhead) = some .name then functionStatement budget nested
      else assignment budget nested
  | some (.symbol .leftBrace) => block budget nested
  | _ => assignment budget nested

end

/-- The rules with a budget of levels. -/
def phrase : Nat → Phrase → Parser Node
  | 0, _ => fail .expression
  | budget + 1, .expression => expression budget (phrase budget)
  | budget + 1, .statement => statement budget (phrase budget)

/-! ## Programs -/

/-- A list of statements up to the end marker. -/
def program (budget : Nat) : Parser Node := do
  let body ← statements (phrase budget .statement) budget
  if (← ahead) = some .endMarker then pure (.program body) else fail .endOfInput

/-- The program that some tokens write.  Tokens after an end marker are not read,
apart from the check for depth. -/
def parse (tokens : List Token) : Except SyntaxError Node := do
  checkNesting tokens
  let (tree, _) ← program (tokens.length + 1) tokens
  pure tree

end Scriptlet.Grammar
