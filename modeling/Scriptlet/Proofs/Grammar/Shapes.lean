/-
# Proofs.Grammar.Shapes -- trees as the grammar builds them

The evaluator takes every tree, the grammar builds only some.  In these an operand is
always an expression and never a statement, each operator stands over as many operands as
it takes, the body of a function is a block, and a program stands inside no other tree.
`Node.Built` says so of one node, and the parts of whatever a derivation yields are all
built so (`built_of_parse`).
-/
import Scriptlet.Proofs.Grammar.Acceptance
import Scriptlet.Proofs.Grammar.Render
import Scriptlet.Proofs.Tree.Parts

namespace Scriptlet

set_option autoImplicit false

/-! ## Built nodes -/

/-- Whether an operator takes one operand; the others take two. -/
def Operator.isSign : Operator → Bool
  | not | negate => true
  | _ => false

namespace Node

/-- The nodes in the place of an operand.  The other children are statements. -/
def operandNodes : Node → List Node
  | binary _ left right => [left, right]
  | unary _ operand => [operand]
  | list elements => elements
  | map entries => entries.map Prod.snd
  | print value | result value => value.toList
  | assign _ value => [value]
  | branch condition _ _ | loop condition _ => [condition]
  | call callee arguments => callee :: arguments
  | index base position => base :: position.toList
  | _ => []

def isBlock : Node → Bool
  | block _ => true
  | _ => false

/-- Whether a node can stand inside a program: with an operator that fits, with a block as
the body of a function, and not being a program itself. -/
def isProper : Node → Bool
  | binary operator _ _ => !operator.isSign
  | unary operator _ => operator.isSign
  | function _ body => body.isBlock
  | program _ => false
  | _ => true

/-- A node as the grammar builds it. -/
structure Built (node : Node) : Prop where
  operands : ∀ operand ∈ node.operandNodes, operand.isExpression = true
  proper : node.isProper = true

/-- An expression built as the grammar builds it, and so are all its parts. -/
structure BuiltExpression (node : Node) : Prop where
  isExpression : node.isExpression = true
  within : node.Throughout Built

variable {node : Node}

theorem throughout_built (proper : node.isProper = true)
    (operands : ∀ operand ∈ node.operandNodes, operand.BuiltExpression)
    (others : ∀ child ∈ node.children,
      child ∈ node.operandNodes ∨ child.Throughout Built) : node.Throughout Built := by
  refine throughout_iff.mpr ⟨⟨fun operand among => (operands operand among).1, proper⟩, ?_⟩
  intro child among
  rcases others child among with operand | within
  · exact (operands child operand).within
  · exact within

theorem throughout_built_leaf (proper : node.isProper = true) (leaf : node.children = [])
    (none : node.operandNodes = []) : node.Throughout Built :=
  throughout_built proper (by simp [none]) (by simp [leaf])

end Node

/-! ## Along a derivation -/

namespace Grammar

open Node

theorem isSign_of_operator? {level : Level} {terminal : Terminal} {operator : Operator}
    (written : level.operator? terminal = some operator) : operator.isSign = false := by
  unfold Level.operator? at written
  split at written <;> cases written <;> rfl

theorem isSign_of_signOperator? {terminal : Terminal} {operator : Operator}
    (written : signOperator? terminal = some operator) : operator.isSign = true := by
  unfold signOperator? at written
  split at written <;> cases written <;> rfl

theorem built_binary {level : Level} {terminal : Terminal} {operator : Operator}
    {left right : Node} (written : level.operator? terminal = some operator)
    (first : left.BuiltExpression) (second : right.BuiltExpression) :
    (binary operator left right).BuiltExpression := by
  refine ⟨rfl, throughout_built ?_ ?_ fun _ => .inl⟩
  · simp [isProper, isSign_of_operator? written]
  · simp [operandNodes, first, second]

mutual

theorem Expression.built {place : Place} {tokens : List Token} {node : Node} :
    Expression place tokens node → node.BuiltExpression
  | .chain _ chain _ => chain.built
  | .uncompared inner => inner.built
  | .compared left written right => built_binary written left.built right.built
  | .sign written inner => by
      refine ⟨rfl, throughout_built (isSign_of_signOperator? written) ?_ fun _ => .inl⟩
      simp [operandNodes, inner.built]
  | .unsigned operand => operand.built

theorem Chain.built {level : Level} {count : Nat} {tokens : List Token} {node : Node} :
    Chain level count tokens node → node.BuiltExpression
  | .one inner => inner.built
  | .more left written right => built_binary written left.built right.built

theorem Operand.built {tokens : List Token} {node : Node} :
    Operand tokens node → node.BuiltExpression
  | .primary primary => primary.built
  | .call callee arguments => by
      refine ⟨rfl, throughout_built rfl ?_ fun _ => .inl⟩
      exact List.forall_mem_cons.mpr ⟨callee.built, built_arguments arguments⟩
  | .bareIndex base _ _ => by
      refine ⟨rfl, throughout_built rfl ?_ fun _ => .inl⟩
      simp [operandNodes, base.built]
  | .index base _ inner _ => by
      refine ⟨rfl, throughout_built rfl ?_ fun _ => .inl⟩
      simp [operandNodes, base.built, inner.built]

theorem built_arguments {tokens : List Token} {nodes : List Node} :
    Enclosed .leftParen .rightParen (Expression .loosest) tokens nodes →
      ∀ node ∈ nodes, node.BuiltExpression
  | .empty _ _ => nofun
  | .full _ nodes _ => built_expressions nodes

theorem built_elements {tokens : List Token} {nodes : List Node} :
    Enclosed .leftBracket .rightBracket (Expression .loosest) tokens nodes →
      ∀ node ∈ nodes, node.BuiltExpression
  | .empty _ _ => nofun
  | .full _ nodes _ => built_expressions nodes

theorem built_expressions {tokens : List Token} {nodes : List Node} :
    Separated (Expression .loosest) tokens nodes → ∀ node ∈ nodes, node.BuiltExpression
  | .one inner => by simpa using inner.built
  | .more inner _ others => List.forall_mem_cons.mpr ⟨inner.built, built_expressions others⟩

theorem Primary.built {tokens : List Token} {node : Node} :
    Primary tokens node → node.BuiltExpression
  | .integer _ | .float _ | .string _ | .name _ | .trueWord _ | .falseWord _ | .nullWord _ =>
      ⟨rfl, throughout_built_leaf rfl rfl rfl⟩
  | .function _ tail => tail.built
  | .parenthesized parens => parens.built
  | .list elements => ⟨rfl, throughout_built rfl (built_elements elements) fun _ => .inl⟩
  | .map entries => ⟨rfl, throughout_built rfl (built_entries entries) fun _ => .inl⟩

theorem built_entries {tokens : List Token} {entries : List (String × Node)} :
    Enclosed .leftBrace .rightBrace Entry tokens entries →
      ∀ node ∈ entries.map Prod.snd, node.BuiltExpression
  | .empty _ _ => nofun
  | .full _ entries _ => built_pairs entries

theorem built_pairs {tokens : List Token} {entries : List (String × Node)} :
    Separated Entry tokens entries → ∀ node ∈ entries.map Prod.snd, node.BuiltExpression
  | .one entry => by simpa using entry.built
  | .more entry _ others => List.forall_mem_cons.mpr ⟨entry.built, built_pairs others⟩

theorem Parenthesized.built {tokens : List Token} {node : Node} :
    Parenthesized tokens node → node.BuiltExpression
  | .parens _ inner _ => inner.built

theorem Entry.built {tokens : List Token} {entry : String × Node} :
    Entry tokens entry → entry.2.BuiltExpression
  | .pair _ _ value => value.built

theorem FunctionTail.built {tokens : List Token} {node : Node} :
    FunctionTail tokens node → node.BuiltExpression
  | .function _ body => by
      obtain ⟨isBlock, within⟩ := body.built
      refine ⟨rfl, throughout_built isBlock nofun fun child among => .inr ?_⟩
      obtain rfl := List.mem_singleton.mp among
      exact within

theorem Block.built {tokens : List Token} {node : Node} :
    Block tokens node → node.isBlock = true ∧ node.Throughout Built
  | .braces _ body _ =>
      ⟨rfl, throughout_built rfl nofun fun child among => .inr (body.built child among)⟩

theorem Statement.built {next : Option Terminal} {tokens : List Token} {node : Node} :
    Statement next tokens node → node.Throughout Built
  | .barePrint _ _ | .emptyPrint _ _ _ | .bareReturn _ _ => throughout_built_leaf rfl rfl rfl
  | .printValue _ inner | .returnValue _ inner =>
      throughout_built rfl (by simp [operandNodes, inner.built]) fun _ => .inl
  | .ifOnly _ condition consequence _ => by
      refine throughout_built rfl ?_ ?_
      · simp [operandNodes, condition.built]
      · simp [children, operandNodes, consequence.built]
  | .ifElse _ condition consequence _ alternative => by
      refine throughout_built rfl ?_ ?_
      · simp [operandNodes, condition.built]
      · simp [children, operandNodes, consequence.built, alternative.built]
  | .loop _ condition body => by
      refine throughout_built rfl ?_ ?_
      · simp [operandNodes, condition.built]
      · simp [children, operandNodes, body.built]
  | .function _ _ tail =>
      throughout_built rfl (by simp [operandNodes, tail.built]) fun _ => .inl
  | .block braces => braces.built.2
  | .expression inner _ => inner.built.within
  | .assignment _ _ _ value =>
      throughout_built rfl (by simp [operandNodes, value.built]) fun _ => .inl

theorem Statements.built {next : Option Terminal} {tokens : List Token} {nodes : List Node} :
    Statements next tokens nodes → ∀ node ∈ nodes, node.Throughout Built
  | .none => nofun
  | .last statement => by simpa using statement.built
  | .more statement _ others => List.forall_mem_cons.mpr ⟨statement.built, others.built⟩

end

/-- The parser returns a program, whose statements and all their parts are built as the grammar
builds them. -/
theorem built_of_parse {tokens : List Token} {tree : Node} (parsed : parse tokens = .ok tree) :
    ∃ body, tree = .program body ∧ ∀ statement ∈ body, statement.Throughout Built := by
  obtain ⟨used, rest, -, -, derived⟩ := derived_of_parse parsed
  cases derived with
  | program inner => exact ⟨_, rfl, inner.built⟩

end Grammar

end Scriptlet
