/-
# Proofs.Grammar.Origins -- where names and complaints come from

A position gets from a token into a tree with a name, and into a report with the token that is
blamed.  Nothing else in a tree or in a report has one.

The names of a tree are the names among its tokens, in their order and each with the place of its
token (`labels_of_parse`).  A report blames one of the tokens, and if that is not the end marker
it quotes its lexeme (`Blames`, `blames_of_parse`).  There is always a token to blame, since no
rule takes the end marker, and it is never the end marker that nests too deeply.
-/
import Scriptlet.Proofs.Grammar.Acceptance
import Scriptlet.Proofs.Grammar.Uniform

namespace Scriptlet

set_option autoImplicit false

/-! ## Names with their places -/

namespace Node

/-- The names in a tree that are in none of its children. -/
def ownLabels : Node → List Name
  | identifier name => [name]
  | assign target _ => [target]
  | function parameters _ => parameters
  | _ => []

/-- All names in a tree with the places at which they were read. -/
def labels (node : Node) : List Name := node.parts.flatMap ownLabels

theorem labels_eq (node : Node) :
    node.labels = node.ownLabels ++ node.children.flatMap labels := by
  rw [labels, parts_eq, List.flatMap_cons, List.flatMap_assoc]
  rfl

end Node

namespace Grammar

/-- The names that some tokens write. -/
def namesOf (tokens : List Token) : List Name :=
  (tokens.filter fun token => token.terminal = .name).map Token.named

@[simp] theorem namesOf_nil : namesOf [] = [] := rfl

@[simp] theorem namesOf_cons (token : Token) (rest : List Token) :
    namesOf (token :: rest)
      = if token.terminal = .name then token.named :: namesOf rest else namesOf rest := by
  by_cases here : token.terminal = .name <;> simp [namesOf, here]

@[simp] theorem namesOf_append (first second : List Token) :
    namesOf (first ++ second) = namesOf first ++ namesOf second := by
  simp [namesOf]

section

variable {tokens : List Token} {node : Node}

theorem operator_ne_name {level : Level} {terminal : Terminal} {operator : Operator}
    (written : level.operator? terminal = some operator) : terminal ≠ .name := by
  rintro rfl
  cases level <;> cases written

theorem sign_ne_name {terminal : Terminal} {operator : Operator}
    (written : signOperator? terminal = some operator) : terminal ≠ .name := by
  rintro rfl
  cases written

theorem Semicolons.namesOf_eq (semicolons : Semicolons tokens) : namesOf tokens = [] := by
  have nameless : tokens.filter (fun token => token.terminal = .name) = [] :=
    List.filter_eq_nil_iff.mpr fun token among => by simp [semicolons.2 token among]
  rw [namesOf, nameless, List.map_nil]

theorem labels_parameters {names : List Name}
    (listed : Enclosed .leftParen .rightParen Parameter tokens names) : names = namesOf tokens := by
  have one {tokens : List Token} {name : Name} : Parameter tokens name → [name] = namesOf tokens
    | .name here => by simp [here]
  have inner {tokens : List Token} {names : List Name}
      (listed : Separated Parameter tokens names) : names = namesOf tokens := by
    induction listed with
    | one name => exact one name
    | more name comma _ ih => simp [← one name, comma, ← ih]
  cases listed with
  | empty opens closes => simp [opens, closes]
  | full opens names closes => simp [opens, ← inner names, closes]

end

mutual

theorem Expression.labels_eq {place : Place} {tokens : List Token} {node : Node} :
    Expression place tokens node → node.labels = namesOf tokens
  | .chain _ chain _ => chain.labels_eq
  | .uncompared inner => inner.labels_eq
  | .compared left written right => by
      rw [Node.labels_eq]
      simp [Node.ownLabels, Node.children, operator_ne_name written, left.labels_eq,
        right.labels_eq]
  | .sign written inner => by
      rw [Node.labels_eq]
      simp [Node.ownLabels, Node.children, sign_ne_name written, inner.labels_eq]
  | .unsigned operand => operand.labels_eq

theorem Chain.labels_eq {level : Level} {count : Nat} {tokens : List Token} {node : Node} :
    Chain level count tokens node → node.labels = namesOf tokens
  | .one inner => inner.labels_eq
  | .more left written right => by
      rw [Node.labels_eq]
      simp [Node.ownLabels, Node.children, operator_ne_name written, left.labels_eq,
        right.labels_eq]

theorem Operand.labels_eq {tokens : List Token} {node : Node} :
    Operand tokens node → node.labels = namesOf tokens
  | .primary primary => primary.labels_eq
  | .call callee arguments => by
      rw [Node.labels_eq]
      simp [Node.ownLabels, Node.children, callee.labels_eq, labels_arguments arguments]
  | .bareIndex base opening closing => by
      rw [Node.labels_eq]
      simp [Node.ownLabels, Node.children, base.labels_eq, opening, closing]
  | .index base opening inner closing => by
      rw [Node.labels_eq]
      simp [Node.ownLabels, Node.children, base.labels_eq, opening, inner.labels_eq, closing]

theorem labels_arguments {tokens : List Token} {nodes : List Node} :
    Enclosed .leftParen .rightParen (Expression .loosest) tokens nodes →
      nodes.flatMap Node.labels = namesOf tokens
  | .empty opens closes => by simp [opens, closes]
  | .full opens nodes closes => by simp [opens, labels_expressions nodes, closes]

theorem labels_elements {tokens : List Token} {nodes : List Node} :
    Enclosed .leftBracket .rightBracket (Expression .loosest) tokens nodes →
      nodes.flatMap Node.labels = namesOf tokens
  | .empty opens closes => by simp [opens, closes]
  | .full opens nodes closes => by simp [opens, labels_expressions nodes, closes]

theorem labels_expressions {tokens : List Token} {nodes : List Node} :
    Separated (Expression .loosest) tokens nodes → nodes.flatMap Node.labels = namesOf tokens
  | .one inner => by simp [inner.labels_eq]
  | .more inner comma others => by simp [inner.labels_eq, comma, labels_expressions others]

theorem Primary.labels_eq {tokens : List Token} {node : Node} :
    Primary tokens node → node.labels = namesOf tokens
  | .integer here | .float here | .string here | .name here | .trueWord here | .falseWord here
  | .nullWord here => by
      rw [Node.labels_eq]
      simp [Node.ownLabels, Node.children, here]
  | .function word tail => by simp [word, tail.labels_eq]
  | .parenthesized parens => parens.labels_eq
  | .list elements => by
      rw [Node.labels_eq]
      simp [Node.ownLabels, Node.children, labels_elements elements]
  | .map entries => by
      rw [Node.labels_eq]
      exact labels_entries entries

theorem labels_entries {tokens : List Token} {entries : List (String × Node)} :
    Enclosed .leftBrace .rightBrace Entry tokens entries →
      (entries.map Prod.snd).flatMap Node.labels = namesOf tokens
  | .empty opens closes => by simp [opens, closes]
  | .full opens entries closes => by simp [opens, labels_pairs entries, closes]

theorem labels_pairs {tokens : List Token} {entries : List (String × Node)} :
    Separated Entry tokens entries → (entries.map Prod.snd).flatMap Node.labels = namesOf tokens
  | .one entry => by simp [entry.labels_eq]
  | .more entry comma others => by
      rw [List.map_cons, List.flatMap_cons, labels_pairs others]
      simp [entry.labels_eq, comma]

theorem Parenthesized.labels_eq {tokens : List Token} {node : Node} :
    Parenthesized tokens node → node.labels = namesOf tokens
  | .parens opening inner closing => by simp [opening, inner.labels_eq, closing]

theorem Entry.labels_eq {tokens : List Token} {entry : String × Node} :
    Entry tokens entry → entry.2.labels = namesOf tokens
  | .pair key colon value => by simp [key, colon, value.labels_eq]

theorem FunctionTail.labels_eq {tokens : List Token} {node : Node} :
    FunctionTail tokens node → node.labels = namesOf tokens
  | .function parameters body => by
      rw [Node.labels_eq]
      simp [Node.ownLabels, Node.children, ← labels_parameters parameters, body.labels_eq]

theorem Block.labels_eq {tokens : List Token} {node : Node} :
    Block tokens node → node.labels = namesOf tokens
  | .braces opens body closes => by
      rw [Node.labels_eq]
      simp [Node.ownLabels, Node.children, opens, body.labels_eq, closes]

theorem Statement.labels_eq {next : Option Terminal} {tokens : List Token} {node : Node} :
    Statement next tokens node → node.labels = namesOf tokens
  | .barePrint word _ | .bareReturn word _ => by
      rw [Node.labels_eq]
      simp [Node.ownLabels, Node.children, word]
  | .emptyPrint word opens closes => by
      rw [Node.labels_eq]
      simp [Node.ownLabels, Node.children, word, opens, closes]
  | .printValue word inner | .returnValue word inner => by
      rw [Node.labels_eq]
      simp [Node.ownLabels, Node.children, word, inner.labels_eq]
  | .ifOnly word condition body _ | .loop word condition body => by
      rw [Node.labels_eq]
      simp [Node.ownLabels, Node.children, word, condition.labels_eq, body.labels_eq]
  | .ifElse word condition consequence other alternative => by
      rw [Node.labels_eq]
      simp [Node.ownLabels, Node.children, word, condition.labels_eq, consequence.labels_eq, other,
        alternative.labels_eq]
  | .function word target tail => by
      rw [Node.labels_eq]
      simp [Node.ownLabels, Node.children, word, target, tail.labels_eq]
  | .block braces => braces.labels_eq
  | .expression inner _ => inner.labels_eq
  | .assignment left _ sign right => by
      -- What stands left of the sign writes one name, which the assignment takes over.
      have target := left.labels_eq
      rw [Node.labels_eq] at target ⊢
      simp [Node.ownLabels, Node.children] at target
      simp [Node.ownLabels, Node.children, ← target, sign, right.labels_eq]

theorem Statements.labels_eq {next : Option Terminal} {tokens : List Token} {nodes : List Node} :
    Statements next tokens nodes → nodes.flatMap Node.labels = namesOf tokens
  | .none => rfl
  | .last statement => by simp [statement.labels_eq]
  | .more statement semicolons others => by
      simp [statement.labels_eq, semicolons.namesOf_eq, others.labels_eq]

end

/-- **The names of a program are the names among its tokens**, in their order. -/
theorem labels_of_parse {tokens : List Token} {marker : Token} {tree : Node}
    (unmarked : Unmarked tokens) (parsed : parse (tokens ++ [marker]) = .ok tree) :
    tree.labels = namesOf tokens := by
  cases (program_of_parse unmarked parsed).2 with
  | program body =>
      rw [Node.labels_eq]
      exact body.labels_eq

/-! ## Complaints -/

/-- A complaint about a token. -/
inductive Blames (token : Token) : SyntaxError → Prop where
  | marker (expected : Expected) : token.terminal = .endMarker →
      Blames token (.unexpected expected .endOfInput token.position)
  | lexeme (expected : Expected) : token.terminal ≠ .endMarker →
      Blames token (.unexpected expected (.lexeme token.lexeme) token.position)

theorem blames_ofRest (expected : Expected) (token : Token) (rest : List Token) :
    Blames token (.ofRest expected (token :: rest)) := by
  by_cases ends : token.terminal = .endMarker
  · simpa only [SyntaxError.ofRest, Token.isEnd, ends] using .marker expected ends
  · have plain : token.isEnd = false := decide_eq_false ends
    simpa only [SyntaxError.ofRest, plain] using .lexeme expected ends

/-- The token that nests too deeply is not the end marker, which opens nothing. -/
theorem blames_tooDeep {tokens : List Token} {depth run : Nat} {token : Token}
    (shallow : depth ≤ maxNesting) (deep : tooDeep? depth run tokens = some token) :
    token ∈ tokens ∧ Blames token (.tooDeep token) := by
  induction tokens generalizing depth run with
  | nil => cases deep
  | cons first rest ih =>
      simp only [tooDeep?] at deep
      split at deep
      · rename_i exceeds
        obtain rfl := Option.some.inj deep
        refine ⟨List.mem_cons_self, .lexeme _ fun ends => ?_⟩
        rw [ends] at exceeds
        exact Nat.not_lt.mpr shallow exceeds
      · rename_i fits
        obtain ⟨among, blames⟩ := ih (by omega) deep
        exact ⟨List.mem_cons_of_mem first among, blames⟩

/-- A list of tokens with an end marker is abreast of itself. -/
theorem Abreast.refl {tokens : List Token} {marker : Token} (ends : marker.terminal = .endMarker) :
    Abreast (tokens ++ [marker]) (tokens ++ [marker]) := by
  induction tokens with
  | nil => exact .marker ⟨rfl, rfl⟩ ends
  | cons token tokens ih =>
      by_cases marked : token.terminal = .endMarker
      · exact .marker ⟨rfl, rfl⟩ marked
      · exact .token ⟨rfl, rfl⟩ marked ih

/-- A parser that fails on a list that is abreast of another one blames a token of it. -/
theorem Agree.blames {α β : Type} {results : α → β → Prop} {tokens others : List Token}
    {outcome : Except SyntaxError (α × List Token)} {outcome' : Except SyntaxError (β × List Token)}
    (agree : Agree results tokens others outcome outcome') {error : SyntaxError}
    (failed : outcome = .error error) : ∃ token ∈ tokens, Blames token error := by
  cases agree with
  | read => cases failed
  | blamed expected left =>
      cases failed
      obtain ⟨abreast, place⟩ := left
      cases abreast with
      | @marker token other more more' _ _ | @token token other more more' _ _ _ =>
          have among := (List.of_mem_zip (place.subset List.mem_cons_self)).1
          exact ⟨token, among, blames_ofRest expected token more⟩

/-- **A list of tokens that is no program is blamed on one of them.** -/
theorem blames_of_parse {tokens : List Token} {marker : Token} {error : SyntaxError}
    (ends : marker.terminal = .endMarker) (failed : parse (tokens ++ [marker]) = .error error) :
    ∃ token ∈ tokens ++ [marker], Blames token error := by
  cases deep : tooDeep? 0 0 (tokens ++ [marker]) with
  | some token =>
      unfold parse checkNesting at failed
      rw [deep] at failed
      cases failed
      obtain ⟨among, blames⟩ := blames_tooDeep (Nat.zero_le _) deep
      exact ⟨token, among, blames⟩
  | none =>
      have shallow : checkNesting (tokens ++ [marker]) = .ok () := by rw [checkNesting, deep]
      rw [parse_of_nests ((checkNesting_ok_iff _).mp shallow)] at failed
      have abreast : Abreast (tokens ++ [marker]) (tokens ++ [marker]) := .refl ends
      have agree := uniform_program ((tokens ++ [marker]).length + 1) _ _ abreast
      cases outcome : program ((tokens ++ [marker]).length + 1) (tokens ++ [marker]) with
      | ok result =>
          rw [outcome] at failed
          cases failed
      | error blamed =>
          rw [outcome] at failed
          cases failed
          exact agree.blames outcome

end Grammar

end Scriptlet
