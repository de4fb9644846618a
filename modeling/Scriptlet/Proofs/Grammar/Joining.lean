/-
# Proofs.Grammar.Joining -- one program behind another

A phrase is the same phrase wherever it stands in a text: moving its tokens moves the
names in its tree and nothing else (`Statements.moved`).  It closes all brackets that it
opens (`Statements.balanced`).  So two programs with a semicolon between them nest no
deeper than each of them, and read as one program with the statements of both
(`parse_joined`).
-/
import Scriptlet.Proofs.Grammar.Acceptance
import Scriptlet.Proofs.Token.Seams
import Scriptlet.Proofs.Tree.Relabeling

namespace Scriptlet

set_option autoImplicit false

/-! ## Tokens that are moved -/

/-- The name as it stands so many bytes further on. -/
def Name.moved (distance : Nat) (name : Name) : Name :=
  ⟨name.text, name.position.map (· + distance)⟩

namespace Grammar

@[simp] theorem front?_moved (distance : Nat) (tokens : List Token) :
    front? (tokens.map (Token.moved distance)) = front? tokens := by
  cases tokens <;> rfl

theorem Semicolons.moved {tokens : List Token} (semicolons : Semicolons tokens)
    (distance : Nat) : Semicolons (tokens.map (Token.moved distance)) := by
  refine ⟨fun nothing => semicolons.1 (List.map_eq_nil_iff.mp nothing), ?_⟩
  intro token among
  obtain ⟨still, inside, rfl⟩ := List.mem_map.mp among
  exact semicolons.2 still inside

theorem moved_parameters {tokens : List Token} {names : List Name} (distance : Nat)
    (listed : Enclosed .leftParen .rightParen Parameter tokens names) :
    Enclosed .leftParen .rightParen Parameter (tokens.map (Token.moved distance))
      (names.map (Name.moved distance)) := by
  have one {tokens : List Token} {name : Name} (parameter : Parameter tokens name) :
      Parameter (tokens.map (Token.moved distance)) (name.moved distance) := by
    cases parameter with
    | name here => exact .name here
  have inner : ∀ {tokens names}, Separated Parameter tokens names →
      Separated Parameter (tokens.map (Token.moved distance))
        (names.map (Name.moved distance)) := by
    intro tokens names listed
    induction listed with
    | one name => exact .one (one name)
    | more name comma _ ih => simpa using .more (one name) comma ih
  cases listed with
  | empty opens closes => exact .empty opens closes
  | full opens names closes => simpa using .full opens (inner names) closes

variable {distance : Nat}

mutual

theorem Expression.moved {place : Place} {tokens : List Token} {node : Node} :
    Expression place tokens node → Expression place (tokens.map (Token.moved distance))
      (node.relabel (Name.moved distance))
  | .chain ordered chain fits => .chain ordered chain.moved fits
  | .uncompared inner => .uncompared inner.moved
  | .compared left written right => by
      simpa using .compared left.moved written right.moved
  | .sign written inner => .sign written inner.moved
  | .unsigned operand => .unsigned operand.moved

theorem Chain.moved {level : Level} {count : Nat} {tokens : List Token} {node : Node} :
    Chain level count tokens node → Chain level count (tokens.map (Token.moved distance))
      (node.relabel (Name.moved distance))
  | .one inner => .one inner.moved
  | .more left written right => by simpa using .more left.moved written right.moved

theorem Operand.moved {tokens : List Token} {node : Node} :
    Operand tokens node → Operand (tokens.map (Token.moved distance))
      (node.relabel (Name.moved distance))
  | .primary primary => .primary primary.moved
  | .call callee arguments => by
      simpa [Node.relabel] using .call callee.moved (moved_arguments arguments)
  | .bareIndex base opens closes => by
      simpa [Node.relabel] using .bareIndex base.moved opens closes
  | .index base opens inner closes => by
      simpa [Node.relabel] using .index base.moved opens inner.moved closes

theorem moved_arguments {tokens : List Token} {nodes : List Node} :
    Enclosed .leftParen .rightParen (Expression .loosest) tokens nodes →
      Enclosed .leftParen .rightParen (Expression .loosest) (tokens.map (Token.moved distance))
        (nodes.map (Node.relabel (Name.moved distance)))
  | .empty opens closes => .empty opens closes
  | .full opens nodes closes => by simpa using .full opens (moved_expressions nodes) closes

theorem moved_elements {tokens : List Token} {nodes : List Node} :
    Enclosed .leftBracket .rightBracket (Expression .loosest) tokens nodes →
      Enclosed .leftBracket .rightBracket (Expression .loosest)
        (tokens.map (Token.moved distance)) (nodes.map (Node.relabel (Name.moved distance)))
  | .empty opens closes => .empty opens closes
  | .full opens nodes closes => by simpa using .full opens (moved_expressions nodes) closes

theorem moved_expressions {tokens : List Token} {nodes : List Node} :
    Separated (Expression .loosest) tokens nodes →
      Separated (Expression .loosest) (tokens.map (Token.moved distance))
        (nodes.map (Node.relabel (Name.moved distance)))
  | .one inner => .one inner.moved
  | .more inner comma others => by
      simpa using .more inner.moved comma (moved_expressions others)

theorem Primary.moved {tokens : List Token} {node : Node} :
    Primary tokens node → Primary (tokens.map (Token.moved distance))
      (node.relabel (Name.moved distance))
  | .integer here => .integer here
  | .float here => .float here
  | .string here => .string here
  | .name here => .name here
  | .trueWord here => .trueWord here
  | .falseWord here => .falseWord here
  | .nullWord here => .nullWord here
  | .function word tail => .function word tail.moved
  | .parenthesized parens => .parenthesized parens.moved
  | .list elements => by simpa [Node.relabel] using .list (moved_elements elements)
  | .map entries => by simpa [Node.relabel] using .map (moved_entries entries)

theorem moved_entries {tokens : List Token} {entries : List (String × Node)} :
    Enclosed .leftBrace .rightBrace Entry tokens entries →
      Enclosed .leftBrace .rightBrace Entry (tokens.map (Token.moved distance))
        (entries.map fun entry => (entry.1, entry.2.relabel (Name.moved distance)))
  | .empty opens closes => .empty opens closes
  | .full opens entries closes => by simpa using .full opens (moved_pairs entries) closes

theorem moved_pairs {tokens : List Token} {entries : List (String × Node)} :
    Separated Entry tokens entries → Separated Entry (tokens.map (Token.moved distance))
      (entries.map fun entry => (entry.1, entry.2.relabel (Name.moved distance)))
  | .one entry => .one entry.moved
  | .more entry comma others => by simpa using .more entry.moved comma (moved_pairs others)

theorem Parenthesized.moved {tokens : List Token} {node : Node} :
    Parenthesized tokens node → Parenthesized (tokens.map (Token.moved distance))
      (node.relabel (Name.moved distance))
  | .parens opens inner closes => by simpa using .parens opens inner.moved closes

theorem Entry.moved {tokens : List Token} {entry : String × Node} :
    Entry tokens entry → Entry (tokens.map (Token.moved distance))
      (entry.1, entry.2.relabel (Name.moved distance))
  | .pair key colon value => .pair key colon value.moved

theorem FunctionTail.moved {tokens : List Token} {node : Node} :
    FunctionTail tokens node → FunctionTail (tokens.map (Token.moved distance))
      (node.relabel (Name.moved distance))
  | .function parameters body => by
      simpa [Node.relabel] using .function (moved_parameters distance parameters) body.moved

theorem Block.moved {tokens : List Token} {node : Node} :
    Block tokens node → Block (tokens.map (Token.moved distance))
      (node.relabel (Name.moved distance))
  | .braces opens body closes => by
      simpa [Node.relabel] using .braces opens body.moved closes

theorem Statement.moved {next : Option Terminal} {tokens : List Token} {node : Node} :
    Statement next tokens node → Statement next (tokens.map (Token.moved distance))
      (node.relabel (Name.moved distance))
  | .barePrint word bare => .barePrint word bare
  | .emptyPrint word opens closes => .emptyPrint word opens closes
  | .printValue word inner => .printValue word inner.moved
  | .bareReturn word bare => .bareReturn word bare
  | .returnValue word inner => .returnValue word inner.moved
  | .ifOnly word condition consequence no_else => by
      simpa [Node.relabel] using .ifOnly word condition.moved consequence.moved no_else
  | .ifElse word condition consequence other alternative => by
      simpa [Node.relabel] using
        .ifElse word condition.moved consequence.moved other alternative.moved
  | .loop word condition body => by
      simpa [Node.relabel] using .loop word condition.moved body.moved
  | .function word target tail => .function word target tail.moved
  | .block braces => .block braces.moved
  | .expression inner plain => .expression inner.moved (by rwa [front?_moved])
  | .assignment left plain sign right => by
      simpa [Node.relabel] using
        .assignment left.moved (by rwa [front?_moved]) sign right.moved

theorem Statements.moved {next : Option Terminal} {tokens : List Token} {nodes : List Node} :
    Statements next tokens nodes → Statements next (tokens.map (Token.moved distance))
      (nodes.map (Node.relabel (Name.moved distance)))
  | .none => .none
  | .last statement => .last statement.moved
  | .more statement semicolons others => by
      simpa using .more statement.moved (semicolons.moved distance) others.moved

end

/-! ## Brackets -/

/-- The brackets open behind some tokens, of which `depth` were open before them. -/
def depthBehind (depth : Nat) (tokens : List Token) : Nat :=
  tokens.foldl (fun depth token => token.terminal.depthAfter depth) depth

@[simp] theorem depthBehind_nil (depth : Nat) : depthBehind depth [] = depth := rfl

@[simp] theorem depthBehind_cons (depth : Nat) (token : Token) (rest : List Token) :
    depthBehind depth (token :: rest) = depthBehind (token.terminal.depthAfter depth) rest := rfl

@[simp] theorem depthBehind_append (depth : Nat) (first second : List Token) :
    depthBehind depth (first ++ second) = depthBehind (depthBehind depth first) second :=
  List.foldl_append

/-- Tokens that close what they open and nothing else. -/
def Balanced (tokens : List Token) : Prop := ∀ depth, depthBehind depth tokens = depth

theorem depthAfter_of_operator? {level : Level} {terminal : Terminal} {operator : Operator}
    (written : level.operator? terminal = some operator) (depth : Nat) :
    terminal.depthAfter depth = depth := by
  unfold Level.operator? at written
  split at written <;> cases written <;> rfl

theorem depthAfter_of_signOperator? {terminal : Terminal} {operator : Operator}
    (written : signOperator? terminal = some operator) (depth : Nat) :
    terminal.depthAfter depth = depth := by
  unfold signOperator? at written
  split at written <;> cases written <;> rfl

theorem Semicolons.balanced {tokens : List Token} (semicolons : Semicolons tokens) :
    Balanced tokens := by
  have all := semicolons.2
  clear semicolons
  intro depth
  induction tokens with
  | nil => rfl
  | cons token rest ih =>
      rw [List.forall_mem_cons] at all
      rw [depthBehind_cons, all.1]
      exact ih all.2

theorem balanced_parameters {tokens : List Token} {names : List Name}
    (listed : Enclosed .leftParen .rightParen Parameter tokens names) : Balanced tokens := by
  have inner : ∀ {tokens names}, Separated Parameter tokens names → Balanced tokens := by
    intro tokens names listed
    induction listed with
    | one name =>
        cases name with
        | name here => simp [Balanced, here, Terminal.depthAfter]
    | more name comma _ ih =>
        cases name with
        | name here => simp [Balanced, here, comma, Terminal.depthAfter, ih _]
  cases listed with
  | empty opens closes => simp [Balanced, opens, closes, Terminal.depthAfter]
  | full opens names closes =>
      simp [Balanced, opens, inner names _, closes, Terminal.depthAfter]

mutual

theorem Expression.balanced {place : Place} {tokens : List Token} {node : Node} :
    Expression place tokens node → Balanced tokens
  | .chain _ chain _ => chain.balanced
  | .uncompared inner => inner.balanced
  | .compared left written right => by
      simp [Balanced, left.balanced _, depthAfter_of_operator? written, right.balanced _]
  | .sign written inner => by
      simp [Balanced, depthAfter_of_signOperator? written, inner.balanced _]
  | .unsigned operand => operand.balanced

theorem Chain.balanced {level : Level} {count : Nat} {tokens : List Token} {node : Node} :
    Chain level count tokens node → Balanced tokens
  | .one inner => inner.balanced
  | .more left written right => by
      simp [Balanced, left.balanced _, depthAfter_of_operator? written, right.balanced _]

theorem Operand.balanced {tokens : List Token} {node : Node} : Operand tokens node → Balanced tokens
  | .primary primary => primary.balanced
  | .call callee arguments => by simp [Balanced, callee.balanced _, balanced_arguments arguments _]
  | .bareIndex base opens closes => by
      simp [Balanced, base.balanced _, opens, closes, Terminal.depthAfter]
  | .index base opens inner closes => by
      simp [Balanced, base.balanced _, opens, inner.balanced _, closes, Terminal.depthAfter]

theorem balanced_arguments {tokens : List Token} {nodes : List Node} :
    Enclosed .leftParen .rightParen (Expression .loosest) tokens nodes → Balanced tokens
  | .empty opens closes => by simp [Balanced, opens, closes, Terminal.depthAfter]
  | .full opens nodes closes => by
      simp [Balanced, opens, balanced_expressions nodes _, closes, Terminal.depthAfter]

theorem balanced_elements {tokens : List Token} {nodes : List Node} :
    Enclosed .leftBracket .rightBracket (Expression .loosest) tokens nodes → Balanced tokens
  | .empty opens closes => by simp [Balanced, opens, closes, Terminal.depthAfter]
  | .full opens nodes closes => by
      simp [Balanced, opens, balanced_expressions nodes _, closes, Terminal.depthAfter]

theorem balanced_expressions {tokens : List Token} {nodes : List Node} :
    Separated (Expression .loosest) tokens nodes → Balanced tokens
  | .one inner => inner.balanced
  | .more inner comma others => by
      simp [Balanced, inner.balanced _, comma, balanced_expressions others _, Terminal.depthAfter]

theorem Primary.balanced {tokens : List Token} {node : Node} : Primary tokens node → Balanced tokens
  | .integer here | .float here | .string here | .name here | .trueWord here | .falseWord here
  | .nullWord here => by simp [Balanced, here, Terminal.depthAfter]
  | .function word tail => by simp [Balanced, word, tail.balanced _, Terminal.depthAfter]
  | .parenthesized parens => parens.balanced
  | .list elements => balanced_elements elements
  | .map entries => balanced_entries entries

theorem balanced_entries {tokens : List Token} {entries : List (String × Node)} :
    Enclosed .leftBrace .rightBrace Entry tokens entries → Balanced tokens
  | .empty opens closes => by simp [Balanced, opens, closes, Terminal.depthAfter]
  | .full opens entries closes => by
      simp [Balanced, opens, balanced_pairs entries _, closes, Terminal.depthAfter]

theorem balanced_pairs {tokens : List Token} {entries : List (String × Node)} :
    Separated Entry tokens entries → Balanced tokens
  | .one entry => entry.balanced
  | .more entry comma others => by
      simp [Balanced, entry.balanced _, comma, balanced_pairs others _, Terminal.depthAfter]

theorem Parenthesized.balanced {tokens : List Token} {node : Node} :
    Parenthesized tokens node → Balanced tokens
  | .parens opens inner closes => by
      simp [Balanced, opens, inner.balanced _, closes, Terminal.depthAfter]

theorem Entry.balanced {tokens : List Token} {entry : String × Node} :
    Entry tokens entry → Balanced tokens
  | .pair key colon value => by
      simp [Balanced, key, colon, value.balanced _, Terminal.depthAfter]

theorem FunctionTail.balanced {tokens : List Token} {node : Node} :
    FunctionTail tokens node → Balanced tokens
  | .function parameters body => by
      simp [Balanced, balanced_parameters parameters _, body.balanced _]

theorem Block.balanced {tokens : List Token} {node : Node} : Block tokens node → Balanced tokens
  | .braces opens body closes => by
      simp [Balanced, opens, body.balanced _, closes, Terminal.depthAfter]

theorem Statement.balanced {next : Option Terminal} {tokens : List Token} {node : Node} :
    Statement next tokens node → Balanced tokens
  | .barePrint word _ | .bareReturn word _ => by simp [Balanced, word, Terminal.depthAfter]
  | .emptyPrint word opens closes => by
      simp [Balanced, word, opens, closes, Terminal.depthAfter]
  | .printValue word inner | .returnValue word inner => by
      simp [Balanced, word, inner.balanced _, Terminal.depthAfter]
  | .ifOnly word condition body _ | .loop word condition body => by
      simp [Balanced, word, condition.balanced _, body.balanced _, Terminal.depthAfter]
  | .ifElse word condition consequence other alternative => by
      simp [Balanced, word, condition.balanced _, consequence.balanced _, other,
        alternative.balanced _, Terminal.depthAfter]
  | .function word target tail => by
      simp [Balanced, word, target, tail.balanced _, Terminal.depthAfter]
  | .block braces => braces.balanced
  | .expression inner _ => inner.balanced
  | .assignment left _ sign right => by
      simp [Balanced, left.balanced _, sign, right.balanced _, Terminal.depthAfter]

theorem Statements.balanced {next : Option Terminal} {tokens : List Token} {nodes : List Node} :
    Statements next tokens nodes → Balanced tokens
  | .none => fun _ => rfl
  | .last statement => statement.balanced
  | .more statement semicolons others => by
      simp [Balanced, statement.balanced _, semicolons.balanced _, others.balanced _]

end

/-! ## Programs one behind the other -/

/-- Statements, a semicolon, and more statements. -/
theorem Statements.append {next last : Option Terminal} {first second : List Token}
    {nodes others : List Node} {sign : Token} (statements : Statements next first nodes)
    (nonempty : nodes ≠ []) (semicolon : sign.terminal = .symbol .semicolon)
    (rest : Statements last second others) :
    Statements last (first ++ sign :: second) (nodes ++ others) := by
  have single : Semicolons [sign] := ⟨List.cons_ne_nil _ _, by simp [semicolon]⟩
  match statements with
  | .none => exact absurd rfl nonempty
  | .last statement => exact .more (statement.before .semicolon) single rest
  | @Statements.more _ tokens semicolons _ _ [] statement separate empty =>
      have longer : Semicolons (semicolons ++ [sign]) := by
        refine ⟨by simp, fun token among => ?_⟩
        rcases List.mem_append.mp among with before | here
        · exact separate.2 token before
        · exact single.2 token here
      cases empty
      have joined : Statements last (tokens ++ ((semicolons ++ [sign]) ++ second)) (_ :: others) :=
        .more statement longer rest
      simpa using joined
  | @Statements.more _ _ _ _ _ (_ :: _) statement separate further =>
      have joined := further.append (List.cons_ne_nil _ _) semicolon rest
      simpa using Statements.more statement separate joined

/-- The brackets and signs behind a semicolon after a program are those of what follows. -/
theorem openBrackets_joined {first second : List Token} (balanced : Balanced first) {sign : Token}
    (semicolon : sign.terminal = .symbol .semicolon) :
    openBrackets (first ++ sign :: second) = openBrackets second := by
  show depthBehind 0 (first ++ sign :: second) = depthBehind 0 second
  simp [balanced _, semicolon, Terminal.depthAfter]

theorem signRun_joined (first second : List Token) {sign : Token}
    (semicolon : sign.terminal = .symbol .semicolon) :
    signRun (first ++ sign :: second) = signRun second := by
  have stops : sign.terminal.isSign = false := by rw [semicolon]; rfl
  simp only [signRun, List.reverse_append, List.reverse_cons, List.append_assoc,
    List.singleton_append, List.takeWhile_append, List.takeWhile_cons, stops]
  split
  · rename_i whole
    rw [whole]
    simp
  · rfl

theorem nests_joined {bound : Nat} {first second : List Token} {sign : Token}
    (balanced : Balanced first) (semicolon : sign.terminal = .symbol .semicolon)
    (nests : Nests bound first) (further : Nests bound second) :
    Nests bound (first ++ sign :: second) := by
  intro before initial
  have whole := List.prefix_append first (sign :: second)
  rcases List.prefix_or_prefix_of_prefix initial whole with early | ⟨rest, rfl⟩
  · exact nests before early
  · have later := (List.prefix_append_right_inj first).mp initial
    cases rest with
    | nil =>
        rw [List.append_nil]
        exact nests first (List.prefix_refl _)
    | cons token rest =>
        obtain ⟨rfl, deeper⟩ := List.cons_prefix_cons.mp later
        rw [openBrackets_joined balanced semicolon, signRun_joined first rest semicolon]
        exact further rest deeper

/-- How deeply tokens nest can be seen from their terminals. -/
theorem nests_congr {bound : Nat} {tokens others : List Token}
    (same : others.map Token.terminal = tokens.map Token.terminal) (nests : Nests bound tokens) :
    Nests bound others := by
  have brackets (tokens : List Token) : openBrackets tokens
      = (tokens.map Token.terminal).foldl (fun depth terminal => terminal.depthAfter depth) 0 := by
    rw [openBrackets, List.foldl_map]
  have signs (tokens : List Token) : signRun tokens
      = ((tokens.map Token.terminal).reverse.takeWhile Terminal.isSign).length := by
    rw [signRun, ← List.map_reverse, List.takeWhile_map, List.length_map]
    rfl
  intro before initial
  have matching : before.map Token.terminal = (tokens.take before.length).map Token.terminal := by
    rw [List.map_take, ← same, ← List.map_take, ← List.prefix_iff_eq_take.mp initial]
  rw [brackets, signs, matching, ← brackets, ← signs]
  exact nests _ (List.take_prefix _ _)

/-- **Two programs with a semicolon between them** are one program with the statements of both, if
there are any in the first one. -/
theorem parse_joined {first second : List Token} {opening closing : List Node}
    {marker last final sign : Token} (distance : Nat)
    (unmarked : Unmarked first) (parsed : parse (first ++ [marker]) = .ok (.program opening))
    (nonempty : opening ≠ [])
    (second_unmarked : Unmarked second) (second_ends : last.terminal = .endMarker)
    (second_parsed : parse (second ++ [last]) = .ok (.program closing))
    (semicolon : sign.terminal = .symbol .semicolon) (final_ends : final.terminal = .endMarker) :
    parse (first ++ sign :: second.map (Token.moved distance) ++ [final])
      = .ok (.program (opening ++ closing.map (Node.relabel (Name.moved distance)))) := by
  obtain ⟨nests, derived⟩ := program_of_parse unmarked parsed
  obtain ⟨further, following⟩ := program_of_parse second_unmarked second_parsed
  cases derived with
  | program statements =>
    cases following with
    | program others =>
      refine parse_program ?_ final_ends (.program ?_)
      · rw [List.append_assoc, List.cons_append]
        refine nests_joined statements.balanced semicolon nests.of_prefix (nests_congr ?_ further)
        rw [List.map_append, List.map_append, List.map_map, List.map_singleton,
          List.map_singleton, second_ends, final_ends]
        rfl
      · exact statements.append nonempty semicolon others.moved

end Grammar

end Scriptlet
