/-
# Proofs.Grammar.Roundtrip -- what is written is read back

A tree that the parser has returned can be written as tokens and read again: the tokens
that `Node.render` writes derive the same tree, with its names where they now stand.  The
proof follows the derivation of the tree.  What it says of an expression (`Renders`) is
that its tokens derive it at every place, among the operands of a chain, and in front of
calls and indices, each time with the parentheses that the place asks for.

Which trees the parser returns is nowhere described but by these derivations: they alone
keep an `if` without `else` from standing before an `else`, and statements from standing
under an operator.
-/
import Scriptlet.Proofs.Grammar.Acceptance
import Scriptlet.Proofs.Grammar.Render

namespace Scriptlet

set_option autoImplicit false

namespace Node

/-! ## Lists of trees -/

theorem renderAll_eq_map (nodes : List Node) : renderAll nodes = nodes.map render := by
  induction nodes with
  | nil => rfl
  | cons node nodes ih => rw [renderAll, ih, List.map_cons]

theorem renderEntries_eq_map (entries : List (String × Node)) :
    renderEntries entries = entries.map renderEntry := by
  induction entries with
  | nil => rfl
  | cons entry entries ih => rw [renderEntries, ih, List.map_cons]

theorem atStartAll_eq_map (nodes : List Node) : atStartAll nodes = nodes.map atStart := by
  induction nodes with
  | nil => rfl
  | cons node nodes ih => rw [atStartAll, ih, List.map_cons]

theorem atStartEntries_eq_map (entries : List (String × Node)) :
    atStartEntries entries = entries.map atStartEntry := by
  induction entries with
  | nil => rfl
  | cons entry entries ih => rw [atStartEntries, ih, List.map_cons]

theorem everywhereAll_iff (holds : Node → Bool) (nodes : List Node) :
    everywhereAll holds nodes = true ↔ ∀ node ∈ nodes, node.everywhere holds = true := by
  induction nodes with
  | nil => simp [everywhereAll]
  | cons node nodes ih => simp [everywhereAll, ih]

theorem everywhereEntries_iff (holds : Node → Bool) (entries : List (String × Node)) :
    everywhereEntries holds entries = true
      ↔ ∀ entry ∈ entries, entry.2.everywhere holds = true := by
  induction entries with
  | nil => simp [everywhereEntries]
  | cons entry entries ih =>
      obtain ⟨key, value⟩ := entry
      simp [everywhereEntries, everywhereEntry, ih]

/-! ## Places -/

variable {node : Node}

theorem place_of_isTight (tight : node.isTight = true) : node.place = .signed := by
  cases node with
  | binary | unary => cases tight
  | _ => rfl

/-- An expression has no operands of a level but itself unless it is a chain of that level. -/
theorem operands_of_place_ne {level : Grammar.Level} (other : node.place ≠ .level level) :
    node.operands level = 1 := by
  cases node with
  | binary operator left right =>
      have apart : operator.level ≠ level := fun same => other (by rw [place, same])
      rw [operands, if_neg apart]
  | _ => rfl

theorem fittedStatement_of_not_isExpression (other : node.isExpression = false)
    (tokens : List Token) : node.fittedStatement tokens = tokens := by
  rw [fittedStatement, if_neg (by simp [other])]

/-- No chain of operators in the tree is too long. -/
abbrev Fits (node : Node) : Prop := node.everywhere chainFits = true

end Node

namespace Grammar

open Node

variable {tokens : List Token} {node : Node}

/-! ## Tokens in brackets -/

theorem operand_inParens (inner : Expression .loosest tokens node) :
    Operand (inParens tokens) node :=
  .primary (.parenthesized (.parens rfl inner rfl))

section

variable {α β : Type} {piece : List Token → β → Prop} {write : α → List Token} {value : α → β}

theorem separated_joined (first : α) (items : List α)
    (all : ∀ item ∈ first :: items, piece (write item) (value item)) :
    Separated piece (joined .comma ((first :: items).map write)) ((first :: items).map value) := by
  induction items generalizing first with
  | nil => exact .one (all first List.mem_cons_self)
  | cons second items ih =>
      exact .more (all first List.mem_cons_self) rfl
        (ih second fun item member => all item (.tail _ member))

theorem enclosed_joined {opening closing : Symbol} (items : List α)
    (all : ∀ item ∈ items, piece (write item) (value item)) :
    Enclosed opening closing piece (bracketed opening closing (joined .comma (items.map write)))
      (items.map value) := by
  cases items with
  | nil => exact .empty rfl rfl
  | cons first items => exact .full rfl (separated_joined first items all) rfl

end

/-! ## Expressions -/

/-- The tokens of an expression derive it wherever it stands. -/
structure Renders (node : Node) : Prop where
  isExpression : node.isExpression = true
  fitted : ∀ place, Expression place (node.fitted place node.render) node.atStart
  chain : ∀ level, level ≠ .comparison →
    Chain level (node.operands level) (node.fitted (.level level) node.render) node.atStart
  tight : Operand (node.fittedTight node.render) node.atStart

/-- It is enough to know an expression at its own place, and as a chain if it is one. -/
theorem Renders.of_place (kind : node.isExpression = true)
    (own : Expression node.place node.render node.atStart)
    (chain : ∀ level, level ≠ .comparison → node.place = .level level →
      Chain level (node.operands level) node.render node.atStart)
    (tight : Operand (node.fittedTight node.render) node.atStart) : Renders node := by
  have parens : Operand (inParens node.render) node.atStart :=
    operand_inParens (own.loosen (Nat.zero_le _))
  refine ⟨kind, fun place => ?_, fun level chained => ?_, tight⟩
  · unfold Node.fitted
    split
    · rename_i within
      exact own.loosen within
    · exact parens.expression place
  · unfold Node.fitted
    by_cases same : node.place = .level level
    · rw [same, if_pos (Nat.le_refl _)]
      exact chain level chained same
    · rw [operands_of_place_ne same]
      split
      · rename_i within
        refine .one (own.loosen ?_)
        have apart : level.rank ≠ node.place.rank :=
          fun equal => same (Place.rank_injective equal.symm)
        change level.rank ≤ node.place.rank at within
        rw [Level.rank_below]
        omega
      · exact .one (parens.expression _)

theorem Renders.of_operand (kind : node.isExpression = true) (tight : node.isTight = true)
    (operand : Operand node.render node.atStart) : Renders node := by
  refine .of_place kind (operand.expression _) (fun level _ same => ?_) ?_
  · rw [place_of_isTight tight] at same
    cases same
  · rw [fittedTight, if_pos tight]
    exact operand

/-- The tokens of an expression that may be any. -/
theorem Renders.loosest (renders : Renders node) :
    Expression .loosest node.render node.atStart := by
  have within : Place.loosest.rank ≤ node.place.rank := Nat.zero_le _
  have inner := renders.fitted .loosest
  rw [Node.fitted, if_pos within] at inner
  exact inner

theorem Renders.of_loose (kind : node.isExpression = true) (loose : node.isTight = false)
    (own : Expression node.place node.render node.atStart)
    (chain : ∀ level, level ≠ .comparison → node.place = .level level →
      Chain level (node.operands level) node.render node.atStart) : Renders node := by
  refine .of_place kind own chain ?_
  rw [fittedTight, if_neg (by rw [loose]; exact Bool.false_ne_true)]
  exact operand_inParens (own.loosen (Nat.zero_le _))

theorem operator?_symbol {level : Level} {terminal : Terminal} {operator : Operator}
    (written : level.operator? terminal = some operator) :
    operator.level = level ∧ level.operator? (.symbol operator.symbol) = some operator := by
  unfold Level.operator? at written
  split at written <;> cases written <;> exact ⟨rfl, rfl⟩

theorem signOperator?_symbol {terminal : Terminal} {operator : Operator}
    (written : signOperator? terminal = some operator) :
    signOperator? (.symbol operator.symbol) = some operator := by
  unfold signOperator? at written
  split at written <;> cases written <;> rfl

section

variable {operator : Operator} {left right operand : Node}

theorem renders_chained (chained : operator.level ≠ .comparison)
    (written : operator.level.operator? (.symbol operator.symbol) = some operator)
    (first : Renders left) (second : Renders right)
    (fits : (binary operator left right).operands operator.level ≤ maxNesting) :
    Renders (binary operator left right) := by
  have whole : Chain operator.level ((binary operator left right).operands operator.level)
      (binary operator left right).render (binary operator left right).atStart := by
    have leaning : operator.level.left = .level operator.level := by
      cases same : operator.level with
      | comparison => exact absurd same chained
      | _ => rfl
    rw [operands, if_pos rfl, render, leaning, atStart]
    exact .more (first.chain _ chained) written (second.fitted _)
  refine .of_loose rfl rfl (.chain chained whole fits) fun level _ same => ?_
  cases same
  exact whole

theorem renders_compared (compared : operator.level = .comparison)
    (written : Level.comparison.operator? (.symbol operator.symbol) = some operator)
    (first : Renders left) (second : Renders right) : Renders (binary operator left right) := by
  have own : Expression (.level .comparison) (binary operator left right).render
      (binary operator left right).atStart := by
    rw [render, compared, atStart]
    exact .compared (first.fitted _) written (second.fitted _)
  refine .of_loose rfl rfl ?_ fun level chained same => ?_
  · rw [place, compared]
    exact own
  · rw [place, compared] at same
    cases same
    exact absurd rfl chained

theorem renders_binary
    (written : operator.level.operator? (.symbol operator.symbol) = some operator)
    (first : Renders left) (second : Renders right)
    (fits : (binary operator left right).chainFits = true) :
    Renders (binary operator left right) := by
  by_cases compared : operator.level = .comparison
  · exact renders_compared compared (by rw [← compared]; exact written) first second
  · refine renders_chained compared written first second ?_
    rw [chainFits, decide_eq_true_iff] at fits
    exact fits.resolve_left compared

theorem renders_sign (written : signOperator? (.symbol operator.symbol) = some operator)
    (inner : Renders operand) : Renders (unary operator operand) := by
  refine .of_loose rfl rfl ?_ fun level _ same => by cases same
  rw [render, atStart]
  exact .sign written (inner.fitted .signed)

end

theorem renders_call {callee : Node} {arguments : List Node} (base : Renders callee)
    (all : ∀ argument ∈ arguments, Renders argument) : Renders (call callee arguments) := by
  refine .of_operand rfl rfl ?_
  rw [render, renderAll_eq_map, atStart, atStartAll_eq_map]
  exact .call base.tight (enclosed_joined arguments fun argument member =>
    (all argument member).loosest)

theorem renders_bareIndex {base : Node} (renders : Renders base) :
    Renders (index base none) := by
  refine .of_operand rfl rfl ?_
  rw [render, atStart]
  exact .bareIndex renders.tight rfl rfl

theorem renders_index {base position : Node} (renders : Renders base) (inner : Renders position) :
    Renders (index base (some position)) := by
  refine .of_operand rfl rfl ?_
  rw [render, atStart]
  exact .index renders.tight rfl inner.loosest rfl

theorem renders_list {elements : List Node} (all : ∀ element ∈ elements, Renders element) :
    Renders (list elements) := by
  refine .of_operand rfl rfl (.primary ?_)
  rw [render, renderAll_eq_map, atStart, atStartAll_eq_map]
  exact .list (enclosed_joined elements fun element member => (all element member).loosest)

theorem renders_map {entries : List (String × Node)}
    (all : ∀ entry ∈ entries, Renders entry.2) : Renders (map entries) := by
  refine .of_operand rfl rfl (.primary ?_)
  rw [render, renderEntries_eq_map, atStart, atStartEntries_eq_map]
  exact .map (enclosed_joined entries fun (key, value) member =>
    .pair rfl rfl (all (key, value) member).loosest)

theorem renders_function {parameters : List Name} {body : Node}
    (block : Block body.render body.atStart) : Renders (function parameters body) := by
  refine .of_operand rfl rfl (.primary ?_)
  rw [render, atStart]
  exact .function rfl (.function (enclosed_joined parameters fun _ _ => .name rfl) block)

/-! ## Statements -/

theorem statement_of_renders (renders : Renders node) (next : Option Terminal) :
    Statement next (node.fittedStatement node.render) node.atStart := by
  unfold fittedStatement
  split
  · exact .expression ((operand_inParens renders.loosest).expression _) nofun
  · rename_i plain
    exact .expression renders.loosest fun brace => plain ⟨renders.isExpression, brace⟩

theorem statement_assign (target : Name) {value : Node} (renders : Renders value)
    (next : Option Terminal) :
    Statement next ((assign target value).fittedStatement (assign target value).render)
      (assign target value).atStart := by
  have left := (operand_name target.text).expression .loosest
  rw [fittedStatement_of_not_isExpression rfl, render, atStart]
  exact .assignment left nofun rfl renders.loosest

/-! ## Along a derivation -/

mutual

theorem Expression.renders {place : Place} {tokens : List Token} {node : Node} :
    Expression place tokens node → node.Fits → Renders node
  | .chain _ chain _ => chain.renders
  | .uncompared inner => inner.renders
  | .compared left written right => fun fits => by
      obtain ⟨level, written⟩ := operator?_symbol written
      simp only [Fits, everywhere, Bool.and_eq_true] at fits
      rw [← level] at written
      exact renders_binary written (left.renders fits.2.1) (right.renders fits.2.2) fits.1
  | .sign written inner => fun fits => by
      simp only [Fits, everywhere, Bool.and_eq_true] at fits
      exact renders_sign (signOperator?_symbol written) (inner.renders fits.2)
  | .unsigned operand => operand.renders

theorem Chain.renders {level : Level} {count : Nat} {tokens : List Token} {node : Node} :
    Chain level count tokens node → node.Fits → Renders node
  | .one inner => inner.renders
  | .more left written right => fun fits => by
      obtain ⟨level, written⟩ := operator?_symbol written
      simp only [Fits, everywhere, Bool.and_eq_true] at fits
      rw [← level] at written
      exact renders_binary written (left.renders fits.2.1) (right.renders fits.2.2) fits.1

theorem Operand.renders {tokens : List Token} {node : Node} :
    Operand tokens node → node.Fits → Renders node
  | .primary primary => primary.renders
  | .call callee arguments => fun fits => by
      simp only [Fits, everywhere, Bool.and_eq_true, everywhereAll_iff] at fits
      exact renders_call (callee.renders fits.2.1) (renders_arguments arguments fits.2.2)
  | .bareIndex base _ _ => fun fits => by
      simp only [Fits, everywhere, Bool.and_eq_true] at fits
      exact renders_bareIndex (base.renders fits.2)
  | .index base _ inner _ => fun fits => by
      simp only [Fits, everywhere, Bool.and_eq_true] at fits
      exact renders_index (base.renders fits.2.1) (inner.renders fits.2.2)

theorem renders_arguments {tokens : List Token} {nodes : List Node} :
    Enclosed .leftParen .rightParen (Expression .loosest) tokens nodes →
      (∀ node ∈ nodes, node.Fits) → ∀ node ∈ nodes, Renders node
  | .empty _ _ => fun _ => nofun
  | .full _ nodes _ => renders_expressions nodes

theorem renders_elements {tokens : List Token} {nodes : List Node} :
    Enclosed .leftBracket .rightBracket (Expression .loosest) tokens nodes →
      (∀ node ∈ nodes, node.Fits) → ∀ node ∈ nodes, Renders node
  | .empty _ _ => fun _ => nofun
  | .full _ nodes _ => renders_expressions nodes

theorem renders_expressions {tokens : List Token} {nodes : List Node} :
    Separated (Expression .loosest) tokens nodes →
      (∀ node ∈ nodes, node.Fits) → ∀ node ∈ nodes, Renders node
  | .one inner => fun fits => by
      simpa using inner.renders (fits _ List.mem_cons_self)
  | .more inner _ others => fun fits => by
      rw [List.forall_mem_cons] at fits ⊢
      exact ⟨inner.renders fits.1, renders_expressions others fits.2⟩

theorem Primary.renders {tokens : List Token} {node : Node} :
    Primary tokens node → node.Fits → Renders node
  | .integer _ => fun _ => .of_operand rfl rfl (.primary (.integer rfl))
  | .float _ => fun _ => .of_operand rfl rfl (.primary (.float rfl))
  | .string _ => fun _ => .of_operand rfl rfl (.primary (.string rfl))
  | .name _ => fun _ => .of_operand rfl rfl (operand_name _)
  | .trueWord _ => fun _ => .of_operand rfl rfl (.primary (.trueWord rfl))
  | .falseWord _ => fun _ => .of_operand rfl rfl (.primary (.falseWord rfl))
  | .nullWord _ => fun _ => .of_operand rfl rfl (.primary (.nullWord rfl))
  | .function _ tail => tail.renders
  | .parenthesized parens => parens.renders
  | .list elements => fun fits => by
      simp only [Fits, everywhere, Bool.and_eq_true, everywhereAll_iff] at fits
      exact renders_list (renders_elements elements fits.2)
  | .map entries => fun fits => by
      simp only [Fits, everywhere, Bool.and_eq_true, everywhereEntries_iff] at fits
      exact renders_map (renders_entries entries fits.2)

theorem renders_entries {tokens : List Token} {entries : List (String × Node)} :
    Enclosed .leftBrace .rightBrace Entry tokens entries →
      (∀ entry ∈ entries, entry.2.Fits) → ∀ entry ∈ entries, Renders entry.2
  | .empty _ _ => fun _ => nofun
  | .full _ entries _ => renders_pairs entries

theorem renders_pairs {tokens : List Token} {entries : List (String × Node)} :
    Separated Entry tokens entries →
      (∀ entry ∈ entries, entry.2.Fits) → ∀ entry ∈ entries, Renders entry.2
  | .one entry => fun fits => by
      simpa using entry.renders (fits _ List.mem_cons_self)
  | .more entry _ others => fun fits => by
      rw [List.forall_mem_cons] at fits ⊢
      exact ⟨entry.renders fits.1, renders_pairs others fits.2⟩

theorem Parenthesized.renders {tokens : List Token} {node : Node} :
    Parenthesized tokens node → node.Fits → Renders node
  | .parens _ inner _ => inner.renders

theorem Entry.renders {tokens : List Token} {entry : String × Node} :
    Entry tokens entry → entry.2.Fits → Renders entry.2
  | .pair _ _ value => value.renders

theorem FunctionTail.renders {tokens : List Token} {node : Node} :
    FunctionTail tokens node → node.Fits → Renders node
  | .function _ body => fun fits => by
      simp only [Fits, everywhere, Bool.and_eq_true] at fits
      exact renders_function (body.renders fits.2)

theorem Block.renders {tokens : List Token} {node : Node} :
    Block tokens node → node.Fits → Block node.render node.atStart
  | .braces _ body _ => fun fits => by
      simp only [Fits, everywhere, Bool.and_eq_true, everywhereAll_iff] at fits
      rw [render, atStart]
      exact .braces rfl (body.renders .rightBrace fits.2) rfl

theorem Statement.renders {next : Option Terminal} {tokens : List Token} {node : Node} :
    Statement next tokens node → node.Fits →
      Statement next (node.fittedStatement node.render) node.atStart
  | .barePrint _ _ | .emptyPrint _ _ _ => fun _ => .emptyPrint rfl rfl rfl
  | .printValue _ inner => fun fits => by
      simp only [Fits, everywhere, Bool.and_eq_true] at fits
      rw [fittedStatement_of_not_isExpression rfl, render, atStart]
      exact .printValue rfl (inner.renders fits.2).loosest
  | .bareReturn _ bare => fun _ => .bareReturn rfl bare
  | .returnValue _ inner => fun fits => by
      simp only [Fits, everywhere, Bool.and_eq_true] at fits
      rw [fittedStatement_of_not_isExpression rfl, render, atStart]
      exact .returnValue rfl (inner.renders fits.2).loosest
  | .ifOnly _ condition consequence no_else => fun fits => by
      simp only [Fits, everywhere, Bool.and_eq_true] at fits
      rw [fittedStatement_of_not_isExpression rfl, render, atStart]
      exact .ifOnly rfl (.parens rfl (condition.renders fits.2.1).loosest rfl)
        (consequence.renders fits.2.2) no_else
  | .ifElse _ condition consequence _ alternative => fun fits => by
      simp only [Fits, everywhere, Bool.and_eq_true] at fits
      rw [fittedStatement_of_not_isExpression rfl, render, atStart]
      exact .ifElse rfl (.parens rfl (condition.renders fits.2.1).loosest rfl)
        (consequence.renders fits.2.2.1) rfl (alternative.renders fits.2.2.2)
  | .loop _ condition body => fun fits => by
      simp only [Fits, everywhere, Bool.and_eq_true] at fits
      rw [fittedStatement_of_not_isExpression rfl, render, atStart]
      exact .loop rfl (.parens rfl (condition.renders fits.2.1).loosest rfl)
        (body.renders fits.2.2)
  | .function _ _ tail => fun fits => by
      simp only [Fits, everywhere, Bool.and_eq_true] at fits
      exact statement_assign _ (tail.renders fits.2) _
  | .block braces => fun fits => by
      have block := braces.renders fits
      cases braces with
      | braces _ _ _ => exact .block block
  | .expression inner _ => fun fits => statement_of_renders (inner.renders fits) _
  | .assignment _ _ _ value => fun fits => by
      simp only [Fits, everywhere, Bool.and_eq_true] at fits
      exact statement_assign _ (value.renders fits.2) _

theorem Statements.renders {next : Option Terminal} {tokens : List Token} {nodes : List Node} :
    Statements next tokens nodes → EndsBare next → (∀ node ∈ nodes, node.Fits) →
      Statements next (joined .semicolon (renderStatements nodes)) (atStartAll nodes)
  | .none => fun _ _ => .none
  | .last statement => fun _ fits => .last (statement.renders (fits _ List.mem_cons_self))
  | @Statements.more _ _ _ _ _ nodes statement _ others => fun bare fits => by
      rw [List.forall_mem_cons] at fits
      have first := statement.renders fits.1
      have rest := others.renders bare fits.2
      cases nodes with
      | nil => exact .last (first.before bare)
      | cons node nodes => exact .more first ⟨List.cons_ne_nil _ [], by simp [Token.ofSymbol]⟩ rest

end

/-- A tree that the parser has returned is read again from the tokens that write it, with its
names where they stand there, if these tokens nest within the bound and none of its chains is
too long. -/
theorem parse_render {source : List Token} {tree : Node} {marker : Token}
    (parsed : parse source = .ok tree) (fits : tree.Fits) (ends : marker.terminal = .endMarker)
    (nests : Nests maxNesting (tree.render ++ [marker])) :
    parse (tree.render ++ [marker]) = .ok tree.atStart := by
  obtain ⟨used, rest, -, -, derived⟩ := derived_of_parse parsed
  cases derived with
  | program inner =>
      simp only [Fits, everywhere, Bool.and_eq_true, everywhereAll_iff] at fits
      have written := inner.renders .endMarker fits.2
      refine parse_program nests ends ?_
      rw [render, atStart]
      exact .program written

/-- `({"k": a - (b - c)})["k"]; if (!(d < e) == e) print() else {return}` -/
def nestedTokens : List Token :=
  [⟨.symbol .leftParen, "(", 0⟩, ⟨.symbol .leftBrace, Symbol.leftBrace.spelling, 1⟩,
    ⟨.string "k", "\"k\"", 2⟩, ⟨.symbol .colon, ":", 5⟩, ⟨.name, "a", 7⟩,
    ⟨.symbol .minus, "-", 9⟩, ⟨.symbol .leftParen, "(", 11⟩, ⟨.name, "b", 12⟩,
    ⟨.symbol .minus, "-", 14⟩, ⟨.name, "c", 16⟩, ⟨.symbol .rightParen, ")", 17⟩,
    ⟨.symbol .rightBrace, Symbol.rightBrace.spelling, 18⟩, ⟨.symbol .rightParen, ")", 19⟩,
    ⟨.symbol .leftBracket, "[", 20⟩, ⟨.string "k", "\"k\"", 21⟩,
    ⟨.symbol .rightBracket, "]", 24⟩, ⟨.symbol .semicolon, ";", 25⟩, ⟨.keyword .ifWord, "if", 27⟩,
    ⟨.symbol .leftParen, "(", 30⟩, ⟨.symbol .exclamation, "!", 31⟩, ⟨.symbol .leftParen, "(", 32⟩,
    ⟨.name, "d", 33⟩, ⟨.symbol .less, "<", 35⟩, ⟨.name, "e", 37⟩, ⟨.symbol .rightParen, ")", 38⟩,
    ⟨.symbol .equalEqual, "==", 40⟩, ⟨.name, "e", 43⟩, ⟨.symbol .rightParen, ")", 44⟩,
    ⟨.keyword .printWord, "print", 46⟩, ⟨.symbol .leftParen, "(", 51⟩,
    ⟨.symbol .rightParen, ")", 52⟩, ⟨.keyword .elseWord, "else", 54⟩,
    ⟨.symbol .leftBrace, Symbol.leftBrace.spelling, 59⟩, ⟨.keyword .returnWord, "return", 60⟩,
    ⟨.symbol .rightBrace, Symbol.rightBrace.spelling, 66⟩, .endAt 67]

def nestedTree : Node :=
  .program [
    .index (.map [("k", .binary .minus (.identifier ⟨"a", some 7⟩)
      (.binary .minus (.identifier ⟨"b", some 12⟩) (.identifier ⟨"c", some 16⟩)))])
      (some (.string "k")),
    .branch (.binary .equal (.unary .not (.binary .lessThan (.identifier ⟨"d", some 33⟩)
      (.identifier ⟨"e", some 37⟩))) (.identifier ⟨"e", some 43⟩)) (.print none)
      (some (.block [.result none]))]

theorem parse_render_nested :
    parse (nestedTree.render ++ [.endAt 0]) = .ok nestedTree.atStart := by
  have parsed : parse nestedTokens = .ok nestedTree := rfl
  exact parse_render parsed rfl rfl (by decide)

end Grammar

end Scriptlet
