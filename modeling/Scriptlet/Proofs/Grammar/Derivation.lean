/-
# Proofs.Grammar.Derivation -- which tokens write which trees

The grammar as a relation between tokens and trees, apart from any parser: a rule says
of what parts a phrase is put together and which tree it then writes.  Names carry the
position of their token, so a tree is determined down to the positions.

Where the rules alone would leave a choice, they are read as follows:

* statements have one semicolon or several between them and any number after the last;
* a statement that begins with a brace is a block;
* an `if` without `else` is never directly followed by `else`;
* `print` and `return` without an expression stand only directly before a semicolon, a
  closing brace or the end;
* what stands left of an equals sign writes a name, in parentheses or not;
* operators of one level lean to the left and join at most `maxNesting` operands, and
  comparisons do not chain.

Two of these readings look at what follows a statement.  So `Statement` and `Statements`
have as their first index the terminal that stands directly after the phrase, if any.
-/
import Scriptlet.Grammar.Rules

namespace Scriptlet

set_option autoImplicit false

/-- The name that a token writes. -/
def Token.named (token : Token) : Name := ⟨token.lexeme, some token.position⟩

namespace Grammar

/-! ## Places of expressions -/

/-- Where an expression can stand: with operators of a level or tighter ones in it, or
without any but signs. -/
inductive Place where
  | level (level : Level)
  | signed
  deriving DecidableEq

/-- The place of any expression at all. -/
abbrev Place.loosest : Place := .level .disjunction

/-- The place of the operands of a level. -/
def Level.below : Level → Place
  | disjunction => .level .conjunction
  | conjunction => .level .comparison
  | comparison => .level .sum
  | sum => .level .product
  | product => .signed

/-- The levels in their order, the loosest first. -/
def Level.rank : Level → Nat
  | disjunction => 0
  | conjunction => 1
  | comparison => 2
  | sum => 3
  | product => 4

/-- The rank of the levels whose operators an expression of a place may have. -/
def Place.rank : Place → Nat
  | .level inner => inner.rank
  | .signed => 5

theorem Level.rank_below (level : Level) : level.below.rank = level.rank + 1 := by
  cases level <;> rfl

theorem Place.rank_le (place : Place) : place.rank ≤ 5 := by
  rcases place with (_ | _ | _ | _ | _) | _ <;> decide

theorem Place.rank_injective {place other : Place} (same : place.rank = other.rank) :
    place = other := by
  rcases place with (_ | _ | _ | _ | _) | _ <;> rcases other with (_ | _ | _ | _ | _) | _ <;>
    first | rfl | cases same

/-! ## Lists in brackets -/

section

variable {α : Type}

/-- One piece or several, with commas between them. -/
inductive Separated (piece : List Token → α → Prop) : List Token → List α → Prop where
  | one {tokens : List Token} {value : α} : piece tokens value → Separated piece tokens [value]
  | more {tokens rest : List Token} {comma : Token} {value : α} {values : List α} :
      piece tokens value → comma.terminal = .symbol .comma → Separated piece rest values →
      Separated piece (tokens ++ comma :: rest) (value :: values)

/-- No piece or several, with commas between them and brackets around them. -/
inductive Enclosed (opening closing : Symbol) (piece : List Token → α → Prop) :
    List Token → List α → Prop where
  | empty {first last : Token} :
      first.terminal = .symbol opening → last.terminal = .symbol closing →
      Enclosed opening closing piece [first, last] []
  | full {first last : Token} {tokens : List Token} {values : List α} :
      first.terminal = .symbol opening → Separated piece tokens values →
      last.terminal = .symbol closing →
      Enclosed opening closing piece (first :: (tokens ++ [last])) values

end

/-- A parameter of a function. -/
inductive Parameter : List Token → Name → Prop where
  | name {token : Token} : token.terminal = .name → Parameter [token] token.named

/-! ## Around statements -/

/-- What a `print` or `return` without an expression stands before. -/
inductive EndsBare : Option Terminal → Prop where
  | semicolon : EndsBare (some (.symbol .semicolon))
  | rightBrace : EndsBare (some (.symbol .rightBrace))
  | endMarker : EndsBare (some .endMarker)

/-- One semicolon or several. -/
def Semicolons (tokens : List Token) : Prop :=
  tokens ≠ [] ∧ ∀ token ∈ tokens, token.terminal = .symbol .semicolon

/-- The terminal at the front of some tokens, if there is one. -/
def front? (tokens : List Token) : Option Terminal := tokens.head?.map Token.terminal

/-! ## The rules -/

mutual

/-- Tokens that write an expression which can stand at a place. -/
inductive Expression : Place → List Token → Node → Prop where
  | chain {level : Level} {count : Nat} {tokens : List Token} {node : Node} :
      level ≠ .comparison → Chain level count tokens node → count ≤ maxNesting →
      Expression (.level level) tokens node
  | uncompared {tokens : List Token} {node : Node} :
      Expression (.level .sum) tokens node → Expression (.level .comparison) tokens node
  | compared {first second : List Token} {sign : Token} {operator : Operator}
      {left right : Node} :
      Expression (.level .sum) first left →
      Level.comparison.operator? sign.terminal = some operator →
      Expression (.level .sum) second right →
      Expression (.level .comparison) (first ++ sign :: second) (.binary operator left right)
  | sign {sign : Token} {operator : Operator} {tokens : List Token} {node : Node} :
      signOperator? sign.terminal = some operator → Expression .signed tokens node →
      Expression .signed (sign :: tokens) (.unary operator node)
  | unsigned {tokens : List Token} {node : Node} :
      Operand tokens node → Expression .signed tokens node

/-- Operands of one level, so many of them, with operators between them. -/
inductive Chain : Level → Nat → List Token → Node → Prop where
  | one {level : Level} {tokens : List Token} {node : Node} :
      Expression level.below tokens node → Chain level 1 tokens node
  | more {level : Level} {count : Nat} {first second : List Token} {sign : Token}
      {operator : Operator} {left right : Node} :
      Chain level count first left → level.operator? sign.terminal = some operator →
      Expression level.below second right →
      Chain level (count + 1) (first ++ sign :: second) (.binary operator left right)

/-- A primary with calls and indices after it. -/
inductive Operand : List Token → Node → Prop where
  | primary {tokens : List Token} {node : Node} : Primary tokens node → Operand tokens node
  | call {tokens inner : List Token} {callee : Node} {arguments : List Node} :
      Operand tokens callee →
      Enclosed .leftParen .rightParen (Expression .loosest) inner arguments →
      Operand (tokens ++ inner) (.call callee arguments)
  | bareIndex {tokens : List Token} {first last : Token} {base : Node} :
      Operand tokens base → first.terminal = .symbol .leftBracket →
      last.terminal = .symbol .rightBracket →
      Operand (tokens ++ [first, last]) (.index base none)
  | index {tokens inner : List Token} {first last : Token} {base position : Node} :
      Operand tokens base → first.terminal = .symbol .leftBracket →
      Expression .loosest inner position → last.terminal = .symbol .rightBracket →
      Operand (tokens ++ first :: (inner ++ [last])) (.index base (some position))

/-- A literal, a name, a function, or something in brackets. -/
inductive Primary : List Token → Node → Prop where
  | integer {token : Token} {value : Int64} :
      token.terminal = .integer value → Primary [token] (.integer value)
  | float {token : Token} {value : Binary64} :
      token.terminal = .float value → Primary [token] (.float value)
  | string {token : Token} {value : String} :
      token.terminal = .string value → Primary [token] (.string value)
  | name {token : Token} : token.terminal = .name → Primary [token] (.identifier token.named)
  | trueWord {token : Token} :
      token.terminal = .keyword .trueWord → Primary [token] (.boolean true)
  | falseWord {token : Token} :
      token.terminal = .keyword .falseWord → Primary [token] (.boolean false)
  | nullWord {token : Token} : token.terminal = .keyword .nullWord → Primary [token] .null
  | function {word : Token} {tokens : List Token} {node : Node} :
      word.terminal = .keyword .functionWord → FunctionTail tokens node →
      Primary (word :: tokens) node
  | parenthesized {tokens : List Token} {node : Node} :
      Parenthesized tokens node → Primary tokens node
  | list {tokens : List Token} {elements : List Node} :
      Enclosed .leftBracket .rightBracket (Expression .loosest) tokens elements →
      Primary tokens (.list elements)
  | map {tokens : List Token} {entries : List (String × Node)} :
      Enclosed .leftBrace .rightBrace Entry tokens entries → Primary tokens (.map entries)

/-- An expression in parentheses, which leave no trace in the tree. -/
inductive Parenthesized : List Token → Node → Prop where
  | parens {first last : Token} {tokens : List Token} {node : Node} :
      first.terminal = .symbol .leftParen → Expression .loosest tokens node →
      last.terminal = .symbol .rightParen → Parenthesized (first :: (tokens ++ [last])) node

/-- An entry of a map. -/
inductive Entry : List Token → String × Node → Prop where
  | pair {key colon : Token} {text : String} {tokens : List Token} {node : Node} :
      key.terminal = .string text → colon.terminal = .symbol .colon →
      Expression .loosest tokens node → Entry (key :: colon :: tokens) (text, node)

/-- The parameters and the body of a function. -/
inductive FunctionTail : List Token → Node → Prop where
  | function {first second : List Token} {parameters : List Name} {body : Node} :
      Enclosed .leftParen .rightParen Parameter first parameters → Block second body →
      FunctionTail (first ++ second) (.function parameters body)

/-- Statements in braces. -/
inductive Block : List Token → Node → Prop where
  | braces {first last : Token} {tokens : List Token} {body : List Node} :
      first.terminal = .symbol .leftBrace →
      Statements (some (.symbol .rightBrace)) tokens body →
      last.terminal = .symbol .rightBrace → Block (first :: (tokens ++ [last])) (.block body)

/-- Tokens that write a statement, if the given terminal stands directly after them. -/
inductive Statement : Option Terminal → List Token → Node → Prop where
  | barePrint {next : Option Terminal} {word : Token} :
      word.terminal = .keyword .printWord → EndsBare next → Statement next [word] (.print none)
  | emptyPrint {next : Option Terminal} {word first last : Token} :
      word.terminal = .keyword .printWord → first.terminal = .symbol .leftParen →
      last.terminal = .symbol .rightParen → Statement next [word, first, last] (.print none)
  | printValue {next : Option Terminal} {word : Token} {tokens : List Token} {node : Node} :
      word.terminal = .keyword .printWord → Expression .loosest tokens node →
      Statement next (word :: tokens) (.print (some node))
  | bareReturn {next : Option Terminal} {word : Token} :
      word.terminal = .keyword .returnWord → EndsBare next → Statement next [word] (.result none)
  | returnValue {next : Option Terminal} {word : Token} {tokens : List Token} {node : Node} :
      word.terminal = .keyword .returnWord → Expression .loosest tokens node →
      Statement next (word :: tokens) (.result (some node))
  | ifOnly {next : Option Terminal} {word : Token} {first second : List Token}
      {condition consequence : Node} :
      word.terminal = .keyword .ifWord → Parenthesized first condition →
      Statement next second consequence → next ≠ some (.keyword .elseWord) →
      Statement next (word :: (first ++ second)) (.branch condition consequence none)
  | ifElse {next : Option Terminal} {word other : Token} {first second third : List Token}
      {condition consequence alternative : Node} :
      word.terminal = .keyword .ifWord → Parenthesized first condition →
      Statement (some (.keyword .elseWord)) second consequence →
      other.terminal = .keyword .elseWord → Statement next third alternative →
      Statement next (word :: (first ++ (second ++ other :: third)))
        (.branch condition consequence (some alternative))
  | loop {next : Option Terminal} {word : Token} {first second : List Token}
      {condition body : Node} :
      word.terminal = .keyword .whileWord → Parenthesized first condition →
      Statement next second body →
      Statement next (word :: (first ++ second)) (.loop condition body)
  | function {next : Option Terminal} {word target : Token} {tokens : List Token}
      {function : Node} :
      word.terminal = .keyword .functionWord → target.terminal = .name →
      FunctionTail tokens function →
      Statement next (word :: target :: tokens) (.assign target.named function)
  | block {next : Option Terminal} {tokens : List Token} {node : Node} :
      Block tokens node → Statement next tokens node
  | expression {next : Option Terminal} {tokens : List Token} {node : Node} :
      Expression .loosest tokens node → front? tokens ≠ some (.symbol .leftBrace) →
      Statement next tokens node
  | assignment {next : Option Terminal} {first second : List Token} {sign : Token}
      {target : Name} {value : Node} :
      Expression .loosest first (.identifier target) →
      front? first ≠ some (.symbol .leftBrace) → sign.terminal = .symbol .equal →
      Expression .loosest second value →
      Statement next (first ++ sign :: second) (.assign target value)

/-- Tokens that write statements one after the other, if the given terminal stands
directly after them. -/
inductive Statements : Option Terminal → List Token → List Node → Prop where
  | none {next : Option Terminal} : Statements next [] []
  | last {next : Option Terminal} {tokens : List Token} {node : Node} :
      Statement next tokens node → Statements next tokens [node]
  | more {next : Option Terminal} {first semicolons rest : List Token} {node : Node}
      {nodes : List Node} :
      Statement (some (.symbol .semicolon)) first node → Semicolons semicolons →
      Statements next rest nodes →
      Statements next (first ++ (semicolons ++ rest)) (node :: nodes)

end

/-- Tokens that write a program, up to the end marker and without it. -/
inductive Program : List Token → Node → Prop where
  | program {tokens : List Token} {body : List Node} :
      Statements (some .endMarker) tokens body → Program tokens (.program body)

/-! ## Looser places and other ends -/

section

variable {tokens : List Token} {node : Node}

theorem Expression.of_below {level : Level} (inner : Expression level.below tokens node) :
    Expression (.level level) tokens node := by
  cases level with
  | comparison => exact .uncompared inner
  | _ => exact .chain (by decide) (.one inner) (by decide)

/-- What can stand at a place can stand at a looser one. -/
theorem Expression.loosen {tight : Place} (inner : Expression tight tokens node) {loose : Place}
    (order : loose.rank ≤ tight.rank) : Expression loose tokens node := by
  obtain ⟨gap, same⟩ := Nat.exists_eq_add_of_le order
  induction gap generalizing loose with
  | zero =>
      have equal : loose = tight := Place.rank_injective same.symm
      rw [equal]
      exact inner
  | succ gap ih =>
      cases loose with
      | signed =>
          have within := tight.rank_le
          change tight.rank = 5 + (gap + 1) at same
          omega
      | level level =>
          change tight.rank = level.rank + (gap + 1) at same
          refine .of_below (ih ?_ ?_) <;> rw [Level.rank_below] <;> omega

/-- An operand can stand at every place. -/
theorem Operand.expression (operand : Operand tokens node) (place : Place) :
    Expression place tokens node :=
  (Expression.unsigned operand).loosen place.rank_le

/-- A statement can stand before any end of a statement. -/
theorem Statement.before {next other : Option Terminal} (bare : EndsBare other)
    {tokens : List Token} {node : Node} : Statement next tokens node → Statement other tokens node
  | .barePrint word _ => .barePrint word bare
  | .emptyPrint word opening closing => .emptyPrint word opening closing
  | .printValue word inner => .printValue word inner
  | .bareReturn word _ => .bareReturn word bare
  | .returnValue word inner => .returnValue word inner
  | .ifOnly word condition consequence _ =>
      .ifOnly word condition (consequence.before bare) (by rintro rfl; cases bare)
  | .ifElse word condition consequence elseWord alternative =>
      .ifElse word condition consequence elseWord (alternative.before bare)
  | .loop word condition body => .loop word condition (body.before bare)
  | .function word target tail => .function word target tail
  | .block braces => .block braces
  | .expression inner front => .expression inner front
  | .assignment left front sign right => .assignment left front sign right

theorem Statements.before {next other : Option Terminal} (bare : EndsBare other)
    {tokens : List Token} {nodes : List Node} :
    Statements next tokens nodes → Statements other tokens nodes
  | .none => .none
  | .last statement => .last (statement.before bare)
  | .more statement semicolons others => .more statement semicolons (others.before bare)

end

end Grammar

end Scriptlet
