/-
# Proofs.Grammar.Fronts -- how phrases begin and what ends them

One token ahead decides how a phrase is read on, and here are the facts that this
depends on: with which terminals the phrases of the grammar begin (`Begins`,
`Statement.front`), and before which terminals an expression of a place cannot be
continued (`Stops`).  A function and a pair of parentheses show their second token too:
`function` goes on with a parenthesis and not with a name, and a parenthesis with the
beginning of an expression and not with its end.

The end marker stands in no phrase at all (`Statements.unmarked`).
-/
import Scriptlet.Proofs.Grammar.Derivation

namespace Scriptlet.Grammar

set_option autoImplicit false

variable {tokens rest : List Token} {node : Node} {next : Option Terminal}

@[simp] theorem front?_cons (token : Token) (rest : List Token) :
    front? (token :: rest) = some token.terminal := rfl

theorem front?_append {terminal : Terminal} (front : front? tokens = some terminal)
    (rest : List Token) : front? (tokens ++ rest) = some terminal := by
  cases tokens with
  | nil => simp [front?] at front
  | cons token tokens => exact front

/-! ## What ends an expression -/

/-- An expression of the place ends before this terminal: it is no operator that the place
allows, and begins neither a call nor an index. -/
structure Stops (place : Place) (next : Option Terminal) : Prop where
  call : next ≠ some (.symbol .leftParen)
  index : next ≠ some (.symbol .leftBracket)
  operators : ∀ level : Level, place.rank ≤ level.rank → next.bind level.operator? = none

theorem Stops.tighter {loose tight : Place} (order : loose.rank ≤ tight.rank)
    (stops : Stops loose next) : Stops tight next where
  call := stops.call
  index := stops.index
  operators level within := stops.operators level (Nat.le_trans order within)

theorem Stops.below {level : Level} (stops : Stops (.level level) next) :
    Stops level.below next :=
  stops.tighter (by rw [Level.rank_below]; exact Nat.le_succ _)

/-- An operator ends what is tighter than its own level. -/
theorem stops_operator {level : Level} {terminal : Terminal} {operator : Operator}
    (written : level.operator? terminal = some operator) : Stops level.below (some terminal) := by
  have ordered : ∀ other : Level, level.below.rank ≤ other.rank →
      other.operator? terminal = none := by
    intro other tighter
    rw [Level.rank_below] at tighter
    cases terminal with
    | symbol sign =>
        cases level <;> cases sign <;> cases other <;> simp_all [Level.operator?, Level.rank]
    | _ => cases level <;> simp [Level.operator?] at written
  refine ⟨?_, ?_, ordered⟩ <;> rintro ⟨⟩ <;> cases level <;> simp [Level.operator?] at written

/-- The terminals that end an expression wherever it stands. -/
inductive Ends : Option Terminal → Prop where
  | nothing : Ends none
  | bare {next : Option Terminal} : EndsBare next → Ends next
  | elseWord : Ends (some (.keyword .elseWord))
  | equal : Ends (some (.symbol .equal))
  | comma : Ends (some (.symbol .comma))
  | rightParen : Ends (some (.symbol .rightParen))
  | rightBracket : Ends (some (.symbol .rightBracket))
  | rightBrace : Ends (some (.symbol .rightBrace))

theorem Ends.stops (ends : Ends next) (place : Place) : Stops place next := by
  have none_of : ∀ level : Level, next.bind level.operator? = none := by
    intro level
    cases ends with
    | bare bare => cases bare <;> cases level <;> rfl
    | _ => cases level <;> rfl
  refine ⟨?_, ?_, fun level _ => none_of level⟩ <;>
    cases ends with
    | bare bare => cases bare <;> simp
    | _ => simp

/-- What stands after a statement of a program. -/
def Follows (next : Option Terminal) : Prop := EndsBare next ∨ next = some (.keyword .elseWord)

theorem Follows.ends (follows : Follows next) : Ends next := by
  rcases follows with bare | rfl
  · exact .bare bare
  · exact .elseWord

theorem endsStatement_iff (next : Option Terminal) : endsStatement next = true ↔ EndsBare next := by
  constructor
  · intro ends
    unfold endsStatement endsStatements at ends
    repeat' split at ends
    · exact .semicolon
    · exact .endMarker
    · exact .rightBrace
    · cases ends
  · rintro (_ | _ | _) <;> rfl

theorem endsStatement_of_endsStatements (ends : endsStatements next = true) :
    endsStatement next = true := by
  unfold endsStatement
  split
  · rfl
  · exact ends

theorem endsStatements_of_endsStatement (goes_on : endsStatement next = false) :
    endsStatements next = false := by
  cases ends : endsStatements next with
  | false => rfl
  | true => rw [endsStatement_of_endsStatements ends] at goes_on; cases goes_on

/-! ## How phrases begin -/

/-- Whether an expression can begin with a terminal. -/
def beginsExpression : Terminal → Bool
  | .name | .integer _ | .float _ | .string _ => true
  | .keyword .trueWord | .keyword .falseWord | .keyword .nullWord | .keyword .functionWord => true
  | .symbol .leftParen | .symbol .leftBracket | .symbol .leftBrace => true
  | .symbol .minus | .symbol .exclamation => true
  | _ => false

/-- How an expression begins. -/
structure Begins (first : Token) (rest : List Token) : Prop where
  begins : beginsExpression first.terminal
  function : first.terminal = .keyword .functionWord → front? rest = some (.symbol .leftParen)
  parens : first.terminal = .symbol .leftParen →
    ∃ second, front? rest = some second ∧ beginsExpression second

theorem Begins.append {first : Token} (begins : Begins first rest) (more : List Token) :
    Begins first (rest ++ more) where
  begins := begins.begins
  function word := front?_append (begins.function word) more
  parens paren := by
    obtain ⟨second, front, beginning⟩ := begins.parens paren
    exact ⟨second, front?_append front more, beginning⟩

theorem Begins.not_ends {first : Token} (begins : Begins first rest) :
    endsStatement (some first.terminal) = false := by
  have begins := begins.begins
  cases ends : endsStatement (some first.terminal) with
  | false => rfl
  | true =>
      generalize first.terminal = terminal at begins ends
      cases (endsStatement_iff _).mp ends <;> cases begins

theorem terminal_of_signOperator? {terminal : Terminal} {operator : Operator}
    (written : signOperator? terminal = some operator) :
    terminal = .symbol .minus ∨ terminal = .symbol .exclamation := by
  unfold signOperator? at written
  split at written
  · exact .inl rfl
  · exact .inr rfl
  · cases written

theorem Enclosed.front {α : Type} {opening closing : Symbol} {piece : List Token → α → Prop}
    {values : List α} (enclosed : Enclosed opening closing piece tokens values) :
    ∃ first rest, tokens = first :: rest ∧ first.terminal = .symbol opening := by
  cases enclosed with
  | empty first last => exact ⟨_, _, rfl, first⟩
  | full first pieces last => exact ⟨_, _, rfl, first⟩

theorem FunctionTail.front : FunctionTail tokens node → front? tokens = some (.symbol .leftParen)
  | .function parameters _ => by
      obtain ⟨first, rest, rfl, opening⟩ := parameters.front
      simp [opening]

/-- A token that is neither a parenthesis nor the word `function` has no say in what
follows it. -/
theorem Begins.of_plain {first : Token} (begins : beginsExpression first.terminal)
    (word : first.terminal ≠ .keyword .functionWord) (paren : first.terminal ≠ .symbol .leftParen)
    (rest : List Token) : Begins first rest :=
  ⟨begins, fun same => absurd same word, fun same => absurd same paren⟩

mutual

theorem Expression.front {place : Place} {tokens : List Token} {node : Node} :
    Expression place tokens node → ∃ first rest, tokens = first :: rest ∧ Begins first rest
  | .chain _ chain _ => chain.front
  | .uncompared inner => inner.front
  | .compared left _ _ => by
      obtain ⟨first, rest, rfl, begins⟩ := left.front
      exact ⟨first, _, rfl, begins.append _⟩
  | .sign written _ => by
      refine ⟨_, _, rfl, .of_plain ?_ ?_ ?_ _⟩ <;>
        rcases terminal_of_signOperator? written with here | here <;>
        rw [here] <;> first | rfl | nofun
  | .unsigned operand => by
      obtain ⟨first, rest, shape, begins, -⟩ := operand.front
      exact ⟨first, rest, shape, begins⟩

theorem Chain.front {level : Level} {count : Nat} {tokens : List Token} {node : Node} :
    Chain level count tokens node → ∃ first rest, tokens = first :: rest ∧ Begins first rest
  | .one inner => inner.front
  | .more left _ _ => by
      obtain ⟨first, rest, rfl, begins⟩ := left.front
      exact ⟨first, _, rfl, begins.append _⟩

/-- An operand begins with no sign. -/
theorem Operand.front {tokens : List Token} {node : Node} : Operand tokens node →
    ∃ first rest, tokens = first :: rest ∧ Begins first rest
      ∧ signOperator? first.terminal = none
  | .primary primary => primary.front
  | .call callee _ => by
      obtain ⟨first, rest, rfl, begins, unsigned⟩ := callee.front
      exact ⟨first, _, rfl, begins.append _, unsigned⟩
  | .bareIndex base _ _ => by
      obtain ⟨first, rest, rfl, begins, unsigned⟩ := base.front
      exact ⟨first, _, rfl, begins.append _, unsigned⟩
  | .index base _ _ _ => by
      obtain ⟨first, rest, rfl, begins, unsigned⟩ := base.front
      exact ⟨first, _, rfl, begins.append _, unsigned⟩

theorem Primary.front {tokens : List Token} {node : Node} : Primary tokens node →
    ∃ first rest, tokens = first :: rest ∧ Begins first rest
      ∧ signOperator? first.terminal = none
  | .integer here | .float here | .string here | .name here | .trueWord here | .falseWord here
  | .nullWord here => by
      refine ⟨_, [], rfl, .of_plain ?_ ?_ ?_ [], ?_⟩ <;> rw [here] <;> first | rfl | simp
  | .function word tail => by
      refine ⟨_, _, rfl, ⟨by rw [word]; rfl, fun _ => tail.front, ?_⟩, by rw [word]; rfl⟩
      exact fun paren => by simp [word] at paren
  | .parenthesized parens => parens.front
  | .list elements => by
      obtain ⟨first, rest, rfl, here⟩ := elements.front
      refine ⟨first, rest, rfl, .of_plain ?_ ?_ ?_ rest, ?_⟩ <;> rw [here] <;> first | rfl | simp
  | .map entries => by
      obtain ⟨first, rest, rfl, here⟩ := entries.front
      refine ⟨first, rest, rfl, .of_plain ?_ ?_ ?_ rest, ?_⟩ <;> rw [here] <;> first | rfl | simp

theorem Parenthesized.front {tokens : List Token} {node : Node} : Parenthesized tokens node →
    ∃ first rest, tokens = first :: rest ∧ Begins first rest
      ∧ signOperator? first.terminal = none
  | .parens opening inner _ => by
      obtain ⟨first, rest, rfl, begins⟩ := inner.front
      refine ⟨_, _, rfl, ⟨by rw [opening]; rfl, ?_, fun _ => ?_⟩, by rw [opening]; rfl⟩
      · exact fun word => by simp [opening] at word
      · exact ⟨_, rfl, begins.begins⟩

end

/-- A statement begins with a token that ends neither a statement nor a list of them. -/
theorem Statement.front (statement : Statement next tokens node) :
    ∃ first rest, tokens = first :: rest ∧ endsStatement (some first.terminal) = false := by
  have word : ∀ {token : Token} {keyword : Keyword} (rest : List Token),
      token.terminal = .keyword keyword → ∃ first others, token :: rest = first :: others
        ∧ endsStatement (some first.terminal) = false :=
    fun rest here => ⟨_, rest, rfl, by rw [here]; rfl⟩
  cases statement with
  | barePrint here | emptyPrint here | printValue here | bareReturn here | returnValue here
  | ifOnly here | ifElse here | loop here | function here => exact word _ here
  | block block =>
      cases block with
      | braces opening body closing => exact ⟨_, _, rfl, by rw [opening]; rfl⟩
  | expression inner _ =>
      obtain ⟨first, rest, rfl, begins⟩ := inner.front
      exact ⟨first, rest, rfl, begins.not_ends⟩
  | assignment target _ _ _ =>
      obtain ⟨first, rest, rfl, begins⟩ := target.front
      exact ⟨first, _, rfl, begins.not_ends⟩

/-- No semicolon stands in front of a list of statements, nor where it ends. -/
theorem Statements.front {nodes : List Node} (statements : Statements next tokens nodes)
    (list_ends : endsStatements next = true) (behind : front? rest = next) :
    front? (tokens ++ rest) ≠ some (.symbol .semicolon) := by
  intro same
  have no_semicolon : ∀ {first : Token}, endsStatement (some first.terminal) = false →
      some first.terminal ≠ some (.symbol .semicolon) := by
    intro first goes_on here
    rw [here] at goes_on
    cases goes_on
  cases statements with
  | none =>
      rw [← behind, ← List.nil_append rest, same] at list_ends
      cases list_ends
  | last statement =>
      obtain ⟨first, others, rfl, goes_on⟩ := statement.front
      exact no_semicolon goes_on same
  | more statement _ _ =>
      obtain ⟨first, others, rfl, goes_on⟩ := statement.front
      exact no_semicolon goes_on same

/-! ## No phrase contains the end marker -/

/-- There is no end marker among the tokens. -/
def Unmarked (tokens : List Token) : Prop := ∀ token ∈ tokens, token.terminal ≠ .endMarker

instance (tokens : List Token) : Decidable (Unmarked tokens) :=
  inferInstanceAs (Decidable (∀ token ∈ tokens, token.terminal ≠ .endMarker))

@[simp] theorem unmarked_nil : Unmarked [] := nofun

@[simp] theorem unmarked_cons {token : Token} {rest : List Token} :
    Unmarked (token :: rest) ↔ token.terminal ≠ .endMarker ∧ Unmarked rest := List.forall_mem_cons

@[simp] theorem unmarked_append {first second : List Token} :
    Unmarked (first ++ second) ↔ Unmarked first ∧ Unmarked second := List.forall_mem_append

theorem unmarked_operator {level : Level} {terminal : Terminal} {operator : Operator}
    (written : level.operator? terminal = some operator) : terminal ≠ .endMarker := by
  rintro rfl
  cases level <;> cases written

theorem unmarked_sign {terminal : Terminal} {operator : Operator}
    (written : signOperator? terminal = some operator) : terminal ≠ .endMarker := by
  rintro rfl
  cases written

theorem Semicolons.unmarked (semicolons : Semicolons tokens) : Unmarked tokens :=
  fun token member => by rw [semicolons.2 token member]; nofun

theorem Parameter.unmarked {name : Name} : Parameter tokens name → Unmarked tokens
  | .name here => by simp [here]

theorem unmarked_parameters {names : List Name}
    (listed : Enclosed .leftParen .rightParen Parameter tokens names) : Unmarked tokens := by
  have inner : ∀ {tokens names}, Separated Parameter tokens names → Unmarked tokens := by
    intro tokens names listed
    induction listed with
    | one name => exact name.unmarked
    | more name comma _ ih => simp [name.unmarked, comma, ih]
  cases listed with
  | empty opens closes => simp [opens, closes]
  | full opens names closes => simp [opens, inner names, closes]

mutual

theorem Expression.unmarked {place : Place} {tokens : List Token} {node : Node} :
    Expression place tokens node → Unmarked tokens
  | .chain _ chain _ => chain.unmarked
  | .uncompared inner => inner.unmarked
  | .compared left written right => by
      simp [left.unmarked, unmarked_operator written, right.unmarked]
  | .sign written inner => by simp [unmarked_sign written, inner.unmarked]
  | .unsigned operand => operand.unmarked

theorem Chain.unmarked {level : Level} {count : Nat} {tokens : List Token} {node : Node} :
    Chain level count tokens node → Unmarked tokens
  | .one inner => inner.unmarked
  | .more left written right => by
      simp [left.unmarked, unmarked_operator written, right.unmarked]

theorem Operand.unmarked {tokens : List Token} {node : Node} : Operand tokens node → Unmarked tokens
  | .primary primary => primary.unmarked
  | .call callee arguments => by simp [callee.unmarked, unmarked_arguments arguments]
  | .bareIndex base opening closing => by simp [base.unmarked, opening, closing]
  | .index base opening inner closing => by
      simp [base.unmarked, opening, inner.unmarked, closing]

theorem unmarked_arguments {tokens : List Token} {nodes : List Node} :
    Enclosed .leftParen .rightParen (Expression .loosest) tokens nodes → Unmarked tokens
  | .empty opens closes => by simp [opens, closes]
  | .full opens nodes closes => by simp [opens, unmarked_expressions nodes, closes]

theorem unmarked_elements {tokens : List Token} {nodes : List Node} :
    Enclosed .leftBracket .rightBracket (Expression .loosest) tokens nodes → Unmarked tokens
  | .empty opens closes => by simp [opens, closes]
  | .full opens nodes closes => by simp [opens, unmarked_expressions nodes, closes]

theorem unmarked_expressions {tokens : List Token} {nodes : List Node} :
    Separated (Expression .loosest) tokens nodes → Unmarked tokens
  | .one inner => inner.unmarked
  | .more inner comma others => by simp [inner.unmarked, comma, unmarked_expressions others]

theorem Primary.unmarked {tokens : List Token} {node : Node} : Primary tokens node → Unmarked tokens
  | .integer here | .float here | .string here | .name here | .trueWord here | .falseWord here
  | .nullWord here => by simp [here]
  | .function word tail => by simp [word, tail.unmarked]
  | .parenthesized parens => parens.unmarked
  | .list elements => unmarked_elements elements
  | .map entries => unmarked_entries entries

theorem unmarked_entries {tokens : List Token} {entries : List (String × Node)} :
    Enclosed .leftBrace .rightBrace Entry tokens entries → Unmarked tokens
  | .empty opens closes => by simp [opens, closes]
  | .full opens entries closes => by simp [opens, unmarked_pairs entries, closes]

theorem unmarked_pairs {tokens : List Token} {entries : List (String × Node)} :
    Separated Entry tokens entries → Unmarked tokens
  | .one entry => entry.unmarked
  | .more entry comma others => by simp [entry.unmarked, comma, unmarked_pairs others]

theorem Parenthesized.unmarked {tokens : List Token} {node : Node} :
    Parenthesized tokens node → Unmarked tokens
  | .parens opening inner closing => by simp [opening, inner.unmarked, closing]

theorem Entry.unmarked {tokens : List Token} {pair : String × Node} :
    Entry tokens pair → Unmarked tokens
  | .pair key colon value => by simp [key, colon, value.unmarked]

theorem FunctionTail.unmarked {tokens : List Token} {node : Node} :
    FunctionTail tokens node → Unmarked tokens
  | .function parameters body => by simp [unmarked_parameters parameters, body.unmarked]

theorem Block.unmarked {tokens : List Token} {node : Node} : Block tokens node → Unmarked tokens
  | .braces opens body closes => by simp [opens, body.unmarked, closes]

theorem Statement.unmarked {next : Option Terminal} {tokens : List Token} {node : Node} :
    Statement next tokens node → Unmarked tokens
  | .barePrint word _ | .bareReturn word _ => by simp [word]
  | .emptyPrint word opens closes => by simp [word, opens, closes]
  | .printValue word inner | .returnValue word inner => by simp [word, inner.unmarked]
  | .ifOnly word condition body _ | .loop word condition body => by
      simp [word, condition.unmarked, body.unmarked]
  | .ifElse word condition consequence other alternative => by
      simp [word, condition.unmarked, consequence.unmarked, other, alternative.unmarked]
  | .function word target tail => by simp [word, target, tail.unmarked]
  | .block braces => braces.unmarked
  | .expression inner _ => inner.unmarked
  | .assignment left _ sign right => by simp [left.unmarked, sign, right.unmarked]

theorem Statements.unmarked {next : Option Terminal} {tokens : List Token} {nodes : List Node} :
    Statements next tokens nodes → Unmarked tokens
  | .none => unmarked_nil
  | .last statement => statement.unmarked
  | .more statement semicolons others => by
      simp [statement.unmarked, semicolons.unmarked, others.unmarked]

end
end Scriptlet.Grammar
