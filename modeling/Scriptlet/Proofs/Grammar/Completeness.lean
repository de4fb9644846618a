/-
# Proofs.Grammar.Completeness -- the parser reads all that the grammar derives

If some tokens write a phrase, the parser of that phrase takes exactly these tokens and
yields that tree, whatever stands behind them, as long as it does not continue the
phrase (`Stops`, `Follows`).  The rules are taken one level at a time: `ReadsShort` says
that the parsers one level down read all phrases shorter than the budget, each rule lemma
adds its own tokens, and induction on the budget ties the knot (`readsShort_phrase`).
-/
import Scriptlet.Proofs.Grammar.Fronts
import Scriptlet.Proofs.Grammar.Steps

namespace Scriptlet.Grammar

open Scriptlet.Parser

set_option autoImplicit false

/-- The parser of the expressions of a place. -/
def Place.parser (budget : Nat) (nested : Phrase → Parser Node) : Place → Parser Node
  | .signed => Grammar.signed (operand budget nested)
  | .level .product => chain .product <| Grammar.signed (operand budget nested)
  | .level .sum => chain .sum <| chain .product <| Grammar.signed (operand budget nested)
  | .level .comparison =>
      comparison <| chain .sum <| chain .product <| Grammar.signed (operand budget nested)
  | .level .conjunction =>
      chain .conjunction <| comparison <| chain .sum <| chain .product <|
        Grammar.signed (operand budget nested)
  | .level .disjunction => expression budget nested

theorem Place.parser_level (budget : Nat) (nested : Phrase → Parser Node) {level : Level}
    (chained : level ≠ .comparison) :
    (Place.level level).parser budget nested = chain level (level.below.parser budget nested) := by
  cases level with
  | comparison => exact absurd rfl chained
  | _ => rfl

/-- The parsers one level down read every phrase that, with what stands behind it, is
shorter than the budget. -/
structure ReadsShort (budget : Nat) (nested : Phrase → Parser Node) : Prop where
  expression {tokens rest : List Token} {node : Node} :
    Expression .loosest tokens node → Stops .loosest (front? rest) →
    (tokens ++ rest).length < budget → nested .expression (tokens ++ rest) = .ok (node, rest)
  statement {next : Option Terminal} {tokens rest : List Token} {node : Node} :
    Statement next tokens node → Follows next → front? rest = next →
    (tokens ++ rest).length < budget → nested .statement (tokens ++ rest) = .ok (node, rest)

/-! ## Lists in brackets -/

section

variable {α : Type} {piece : List Token → α → Prop} {item : Parser α} {opening closing : Symbol}
  {tokens rest : List Token} {values : List α} {bound rounds : Nat}

/-- A parser reads the pieces of a list before a comma and before the end of the list,
and no piece begins like that end. -/
structure ReadsPieces (piece : List Token → α → Prop) (item : Parser α) (closing : Symbol)
    (bound : Nat) : Prop where
  read {tokens rest : List Token} {value : α} : piece tokens value →
    front? rest = some (.symbol .comma) ∨ front? rest = some (.symbol closing) →
    (tokens ++ rest).length ≤ bound → item (tokens ++ rest) = .ok (value, rest)
  apart {tokens : List Token} {value : α} (rest : List Token) : piece tokens value →
    front? (tokens ++ rest) ≠ some (.symbol closing)
  closing_ne_comma : closing ≠ .comma

theorem separated_taken (reads : ReadsPieces piece item closing bound)
    (inner : Separated piece tokens values) {last : Token}
    (end_here : last.terminal = .symbol closing)
    (fits : (tokens ++ last :: rest).length ≤ bound)
    (enough : (tokens ++ last :: rest).length ≤ rounds) :
    separated item closing rounds (tokens ++ last :: rest) = .ok (values, rest) := by
  induction inner generalizing rounds with
  | @one tokens value here =>
      cases rounds with
      | zero => simp at enough
      | succ rounds =>
          have no_comma : front? (last :: rest) ≠ some (.symbol .comma) := by
            simp [end_here, reads.closing_ne_comma]
          unfold separated
          rw [bind_ok (reads.read here (.inr (by simp [end_here])) fits),
            bind_ok (accept_elsewhere no_comma), if_neg Bool.false_ne_true,
            bind_ok (accept_here end_here rest), if_pos rfl]
          rfl
  | @more tokens others comma value values here between _ ih =>
      cases rounds with
      | zero => simp at enough
      | succ rounds =>
          rw [List.append_assoc, List.cons_append] at fits enough ⊢
          unfold separated
          rw [bind_ok (reads.read here (.inl (by simp [between])) fits),
            bind_ok (accept_here between _), if_pos rfl, bind_ok (ih ?_ ?_)]
          · rfl
          all_goals
            simp only [List.length_append, List.length_cons] at fits enough ⊢
            omega

/-- The list behind an opening bracket, its closing bracket included. -/
theorem listOf_taken (reads : ReadsPieces piece item closing bound)
    (enclosed : Enclosed opening closing piece tokens values) (rest : List Token) (rounds : Nat)
    (fits : (tokens ++ rest).length ≤ bound + 1) (enough : (tokens ++ rest).length ≤ rounds + 1) :
    ∃ first inner, tokens = first :: inner ∧ first.terminal = .symbol opening
      ∧ listOf rounds item closing (inner ++ rest) = .ok (values, rest) := by
  cases enclosed with
  | @empty first last here end_here =>
      refine ⟨first, [last], rfl, here, ?_⟩
      unfold listOf
      rw [List.singleton_append, bind_ok (accept_here end_here rest), if_pos rfl]
      rfl
  | @full first last tokens values here inner end_here =>
      refine ⟨first, tokens ++ [last], rfl, here, ?_⟩
      rw [List.append_assoc, List.singleton_append]
      have no_end : front? (tokens ++ last :: rest) ≠ some (.symbol closing) := by
        cases inner with
        | one piece => exact reads.apart _ piece
        | more piece _ _ => rw [List.append_assoc]; exact reads.apart _ piece
      unfold listOf
      rw [bind_ok (accept_elsewhere no_end), if_neg Bool.false_ne_true]
      refine separated_taken reads inner end_here ?_ ?_ <;>
        simp only [List.length_append, List.length_cons, List.length_nil] at fits enough ⊢ <;>
        omega

end

section

variable {budget : Nat} {nested : Phrase → Parser Node} (reads : ReadsShort budget nested)
  {tokens rest : List Token} {node : Node} {next : Option Terminal}
include reads

/-! ## Expressions -/

theorem readsPieces_expression {closing : Symbol} (ends : Ends (some (.symbol closing)))
    (apart : beginsExpression (.symbol closing) = false) (other : closing ≠ .comma) :
    ReadsPieces (Expression .loosest) (nested .expression) closing (budget - 1) where
  read := by
    intro tokens rest node inner before fits
    have stops : Ends (front? rest) := by
      rcases before with comma | close
      · rw [comma]; exact .comma
      · rw [close]; exact ends
    refine reads.expression inner (stops.stops _) ?_
    obtain ⟨first, others, rfl, _⟩ := inner.front
    simp only [List.cons_append, List.length_cons] at fits ⊢
    omega
  apart := by
    intro tokens node rest inner same
    obtain ⟨first, others, rfl, begins⟩ := inner.front
    have begins := begins.begins
    rw [Option.some.inj same, apart] at begins
    cases begins
  closing_ne_comma := other

theorem parenthesized_taken (parens : Parenthesized tokens node)
    (fits : (tokens ++ rest).length ≤ budget) :
    parenthesized nested (tokens ++ rest) = .ok (node, rest) := by
  cases parens with
  | @parens first last tokens node opening inner closing =>
      have short : (tokens ++ last :: rest).length < budget := by
        simp only [List.cons_append, List.append_assoc, List.length_cons, List.length_append,
          List.length_nil] at fits ⊢
        omega
      have stops : Stops .loosest (front? (last :: rest)) := by
        rw [front?_cons, closing]
        exact Ends.rightParen.stops _
      rw [List.cons_append, List.append_assoc, List.singleton_append]
      unfold parenthesized
      rw [bind_ok (symbol_here opening _), bind_ok (reads.expression inner stops short),
        bind_ok (symbol_here closing rest)]
      rfl

theorem entry_taken {pair : String × Node} (derived : Entry tokens pair)
    (stops : Stops .loosest (front? rest)) (fits : (tokens ++ rest).length ≤ budget) :
    entry nested (tokens ++ rest) = .ok (pair, rest) := by
  cases derived with
  | @pair key colon text tokens node key_here colon_here value =>
      have short : (tokens ++ rest).length < budget := by
        simp only [List.cons_append, List.length_cons] at fits
        omega
      unfold entry
      rw [List.cons_append, List.cons_append, ahead_bind, front?_cons, key_here]
      show (skip >>= _) _ = _
      rw [skip_bind, bind_ok (symbol_here colon_here _),
        bind_ok (reads.expression value stops short)]
      rfl

theorem readsPieces_entry : ReadsPieces Entry (entry nested) .rightBrace budget where
  read := by
    intro tokens rest pair derived before fits
    have ends : Ends (front? rest) := by
      rcases before with comma | close
      · rw [comma]; exact .comma
      · rw [close]; exact .rightBrace
    exact entry_taken reads derived (ends.stops _) fits
  apart := by
    intro tokens pair rest derived same
    cases derived with
    | pair key_here _ _ => simp [key_here] at same
  closing_ne_comma := by decide

omit reads in
theorem skipSemicolons_all {semicolons rest : List Token}
    (all : ∀ token ∈ semicolons, token.terminal = .symbol .semicolon)
    (stop : front? rest ≠ some (.symbol .semicolon)) :
    skipSemicolons (semicolons ++ rest) = .ok ((), rest) := by
  have dropped : (semicolons ++ rest).dropWhile (fun token => token.terminal = .symbol .semicolon)
      = rest := by
    rw [List.dropWhile_append_of_pos (by simpa using all)]
    cases rest with
    | nil => rfl
    | cons token others =>
        rw [List.dropWhile_cons_of_neg]
        simpa using stop
  unfold skipSemicolons
  rw [dropped]

/-- Statements up to where a list of them ends; each round takes one of them. -/
theorem statements_taken {next : Option Terminal} (list_ends : endsStatements next = true)
    {tokens : List Token} {nodes : List Node} : Statements next tokens nodes →
      ∀ (rest : List Token) (rounds : Nat), front? rest = next →
        (tokens ++ rest).length < budget → (tokens ++ rest).length ≤ rounds →
        statements (nested .statement) rounds (tokens ++ rest) = .ok (nodes, rest)
  | .none => by
      intro rest rounds behind _ enough
      cases rounds with
      | zero =>
          have nothing : rest = [] := List.length_eq_zero_iff.mp (Nat.le_zero.mp enough)
          subst nothing behind
          cases list_ends
      | succ rounds =>
          unfold statements
          rw [List.nil_append, ahead_bind, behind, if_pos list_ends]
          rfl
  | .last statement => by
      intro rest rounds behind fits enough
      have follows : Follows next :=
        .inl ((endsStatement_iff _).mp (endsStatement_of_endsStatements list_ends))
      have no_semicolon : front? rest ≠ some (.symbol .semicolon) := by
        rintro same
        rw [← behind, same] at list_ends
        cases list_ends
      have read := reads.statement statement follows behind fits
      obtain ⟨first, others, rfl, goes_on⟩ := statement.front
      cases rounds with
      | zero => cases enough
      | succ rounds =>
          unfold statements
          rw [ahead_bind, if_neg (by simp [endsStatements_of_endsStatement goes_on]),
            bind_ok read, bind_ok (accept_elsewhere no_semicolon), if_neg Bool.false_ne_true]
          rfl
  | .more statement ⟨several, all⟩ others => by
      intro rest rounds behind fits enough
      obtain ⟨semicolon, more, rfl⟩ := List.exists_cons_of_ne_nil several
      have here := all semicolon List.mem_cons_self
      simp only [List.append_assoc, List.cons_append] at fits enough ⊢
      have read := reads.statement statement (.inl .semicolon) (by simp [here]) fits
      obtain ⟨first, tail, rfl, goes_on⟩ := statement.front
      simp only [List.length_append, List.length_cons] at fits enough
      cases rounds with
      | zero => omega
      | succ rounds =>
          have rest_read := statements_taken list_ends others rest rounds behind
            (by simp only [List.length_append]; omega) (by simp only [List.length_append]; omega)
          have skipped := skipSemicolons_all (fun token member => all token (.tail _ member))
            (others.front list_ends behind)
          unfold statements
          rw [List.cons_append, ahead_bind, front?_cons,
            if_neg (by simp [endsStatements_of_endsStatement goes_on]), ← List.cons_append,
            bind_ok read, bind_ok (accept_here here _), if_pos rfl, bind_ok skipped,
            bind_ok rest_read]
          rfl

theorem block_taken (block : Block tokens node) (fits : (tokens ++ rest).length ≤ budget) :
    Grammar.block budget nested (tokens ++ rest) = .ok (node, rest) := by
  cases block with
  | @braces first last tokens body opening inner closing =>
      have short : (tokens ++ last :: rest).length < budget := by
        simp only [List.cons_append, List.append_assoc, List.length_cons, List.length_append,
          List.length_nil] at fits ⊢
        omega
      rw [List.cons_append, List.append_assoc, List.singleton_append]
      unfold Grammar.block
      rw [bind_ok (symbol_here opening _),
        bind_ok (statements_taken reads rfl inner _ _ (by simp [closing]) short
          (Nat.le_of_lt short)),
        bind_ok (symbol_here closing rest)]
      rfl

theorem functionTail_taken (tail : FunctionTail tokens node)
    (fits : (tokens ++ rest).length ≤ budget) :
    functionTail budget nested (tokens ++ rest) = .ok (node, rest) := by
  have parameters_read : ReadsPieces Parameter name .rightParen budget := by
    refine ⟨fun piece _ _ => ?_, fun rest piece same => ?_, by decide⟩
    · cases piece with
      | name here => exact name_here here _
    · cases piece with
      | name here => simp [here] at same
  cases tail with
  | @function first second parameters body listed block =>
      rw [List.append_assoc] at fits ⊢
      obtain ⟨opening, inner, rfl, here, list⟩ :=
        listOf_taken parameters_read listed (second ++ rest) budget (Nat.le_succ_of_le fits)
          (Nat.le_succ_of_le fits)
      unfold functionTail
      rw [List.cons_append, bind_ok (symbol_here here _), bind_ok list,
        bind_ok (block_taken reads block ?_)]
      · rfl
      · simp only [List.length_append, List.length_cons] at fits ⊢
        omega

theorem primary_taken (primary : Primary tokens node) (fits : (tokens ++ rest).length ≤ budget) :
    Grammar.primary budget nested (tokens ++ rest) = .ok (node, rest) := by
  unfold Grammar.primary
  rw [ahead_bind]
  cases primary with
  | integer here | float here | string here | trueWord here | falseWord here | nullWord here =>
      rw [List.singleton_append, front?_cons, here]
      rfl
  | name here =>
      rw [List.singleton_append, front?_cons, here]
      show (Parser.name >>= _) _ = _
      rw [bind_ok (name_here here rest)]
      rfl
  | function word tail =>
      rw [List.cons_append, front?_cons, word]
      show functionTail budget nested _ = _
      exact functionTail_taken reads tail (Nat.le_of_succ_le fits)
  | parenthesized parens =>
      have front : front? (tokens ++ rest) = some (.symbol .leftParen) := by
        cases parens with
        | parens opening inner closing => simp [opening]
      rw [front]
      exact parenthesized_taken reads parens fits
  | list listed =>
      have pieces := readsPieces_expression reads .rightBracket rfl (by decide)
      obtain ⟨opening, inner, rfl, here, list⟩ := listOf_taken pieces listed rest budget
        (by omega) (Nat.le_succ_of_le fits)
      rw [List.cons_append, front?_cons, here]
      show (skip >>= _) _ = _
      rw [skip_bind, bind_ok list]
      rfl
  | map listed =>
      obtain ⟨opening, inner, rfl, here, list⟩ := listOf_taken (readsPieces_entry reads) listed
        rest budget (Nat.le_succ_of_le fits) (Nat.le_succ_of_le fits)
      rw [List.cons_append, front?_cons, here]
      show (skip >>= _) _ = _
      rw [skip_bind, bind_ok list]
      rfl

section

omit reads
variable {first last : Token} {list : List Token} {rounds : Nat}

theorem suffixes_call (opening : first.terminal = .symbol .leftParen) {arguments : List Node}
    (listed : listOf budget (nested .expression) .rightParen list = .ok (arguments, rest)) :
    suffixes budget nested (rounds + 1) node (first :: list)
      = suffixes budget nested rounds (.call node arguments) rest := by
  rw [suffixes, bind_ok (accept_here opening _), if_pos rfl, bind_ok listed]

theorem suffixes_bareIndex (opening : first.terminal = .symbol .leftBracket)
    (closing : last.terminal = .symbol .rightBracket) :
    suffixes budget nested (rounds + 1) node (first :: last :: rest)
      = suffixes budget nested rounds (.index node none) rest := by
  rw [suffixes, bind_ok (accept_elsewhere (by simp [opening])), if_neg Bool.false_ne_true,
    bind_ok (accept_here opening _), if_pos rfl, bind_ok (accept_here closing _), if_pos rfl]

theorem suffixes_index (opening : first.terminal = .symbol .leftBracket)
    (goes_on : front? list ≠ some (.symbol .rightBracket)) {position : Node}
    (read : nested .expression list = .ok (position, last :: rest))
    (closing : last.terminal = .symbol .rightBracket) :
    suffixes budget nested (rounds + 1) node (first :: list)
      = suffixes budget nested rounds (.index node (some position)) rest := by
  rw [suffixes, bind_ok (accept_elsewhere (by simp [opening])), if_neg Bool.false_ne_true,
    bind_ok (accept_here opening _), if_pos rfl, bind_ok (accept_elsewhere goes_on),
    if_neg Bool.false_ne_true, bind_ok read, bind_ok (symbol_here closing _)]

end

/-- Suffixes are read one by one; what is left of the rounds after some of them is more
than enough for the tokens left. -/
theorem operand_taken {tokens : List Token} {node : Node} : Operand tokens node →
    ∀ rest : List Token, (tokens ++ rest).length ≤ budget → ∃ rounds, rest.length < rounds
      ∧ operand budget nested (tokens ++ rest) = suffixes budget nested rounds node rest
  | .primary primary, rest, fits => by
      refine ⟨budget, ?_, ?_⟩
      · obtain ⟨first, others, rfl, _⟩ := primary.front
        simp only [List.cons_append, List.length_cons, List.length_append] at fits
        omega
      · unfold operand
        rw [bind_ok (primary_taken reads primary fits)]
  | .call callee listed, rest, fits => by
      rw [List.append_assoc] at fits ⊢
      obtain ⟨rounds, more, start⟩ := operand_taken callee _ fits
      have pieces := readsPieces_expression reads .rightParen rfl (by decide)
      rw [List.length_append] at fits
      obtain ⟨opening, inner, rfl, here, list⟩ := listOf_taken pieces listed rest budget
        (by omega) (by omega)
      cases rounds with
      | zero => cases more
      | succ rounds =>
          refine ⟨rounds, ?_, ?_⟩
          · simp only [List.cons_append, List.length_cons, List.length_append] at more
            omega
          · rw [start]
            exact suffixes_call here list
  | .bareIndex base opening closing, rest, fits => by
      rw [List.append_assoc] at fits ⊢
      obtain ⟨rounds, more, start⟩ := operand_taken base _ fits
      cases rounds with
      | zero => cases more
      | succ rounds =>
          refine ⟨rounds, ?_, ?_⟩
          · simp only [List.cons_append, List.nil_append, List.length_cons] at more
            omega
          · rw [start]
            exact suffixes_bareIndex opening closing
  | @Operand.index _ _ _ last _ _ base opening inner closing, rest, fits => by
      simp only [List.append_assoc, List.cons_append, List.nil_append] at fits ⊢
      obtain ⟨rounds, more, start⟩ := operand_taken base _ fits
      have ends : Ends (front? (last :: rest)) := by
        rw [front?_cons, closing]
        exact .rightBracket
      have read := reads.expression inner (ends.stops _) (by
        simp only [List.length_append, List.length_cons] at fits ⊢
        omega)
      obtain ⟨first, others, rfl, begins⟩ := inner.front
      have goes_on : front? (first :: others ++ last :: rest) ≠ some (.symbol .rightBracket) := by
        intro same
        have begins := begins.begins
        rw [Option.some.inj same] at begins
        cases begins
      cases rounds with
      | zero => cases more
      | succ rounds =>
          refine ⟨rounds, ?_, ?_⟩
          · simp only [List.cons_append, List.length_cons, List.length_append] at more
            omega
          · rw [start]
            exact suffixes_index opening goes_on read closing

omit reads in
theorem suffixes_end {rest : List Token} {rounds : Nat} (more : rest.length < rounds)
    (call : front? rest ≠ some (.symbol .leftParen))
    (index : front? rest ≠ some (.symbol .leftBracket)) (node : Node) :
    suffixes budget nested rounds node rest = .ok (node, rest) := by
  cases rounds with
  | zero => cases more
  | succ rounds =>
      rw [suffixes, bind_ok (accept_elsewhere call), if_neg Bool.false_ne_true,
        bind_ok (accept_elsewhere index), if_neg Bool.false_ne_true]
      rfl

omit reads in
theorem chainAfter_end {level : Level} {operand : Parser Node} {rest : List Token}
    (none_ahead : (front? rest).bind level.operator? = none) (room : Nat) (node : Node) :
    chainAfter level operand room node rest = .ok (node, rest) := by
  cases room <;>
    · rw [chainAfter, operatorAhead?_bind, none_ahead]
      rfl

omit reads in
mutual

theorem expression_taken (reads : ReadsShort budget nested) {place : Place}
    {tokens : List Token} {node : Node} :
    Expression place tokens node → ∀ rest : List Token, (tokens ++ rest).length ≤ budget →
      Stops place (front? rest) → place.parser budget nested (tokens ++ rest) = .ok (node, rest)
  | .chain chained operands within => by
      intro rest fits stops
      rw [Place.parser_level budget nested chained,
        chain_taken reads operands within rest fits stops.below]
      exact chainAfter_end (stops.operators _ (Nat.le_refl _)) _ node
  | .uncompared inner => by
      intro rest fits stops
      show comparison ((Place.level .sum).parser budget nested) _ = _
      unfold comparison
      rw [bind_ok (expression_taken reads inner rest fits stops.below), operatorAhead?_bind,
        stops.operators .comparison (Nat.le_refl _)]
      rfl
  | .compared left written right => by
      intro rest fits stops
      rw [List.append_assoc, List.cons_append] at fits ⊢
      show comparison ((Place.level .sum).parser budget nested) _ = _
      unfold comparison
      rw [bind_ok (expression_taken reads left _ fits (stops_operator written)),
        operatorAhead?_bind, front?_cons, Option.bind_some, written]
      show (skip >>= _) _ = _
      rw [skip_bind, bind_ok (expression_taken reads right rest ?_ stops.below)]
      · rfl
      · simp only [List.length_append, List.length_cons] at fits ⊢
        omega
  | .sign written inner => by
      intro rest fits stops
      have read := expression_taken reads inner rest (Nat.le_of_succ_le fits) stops
      change Grammar.signed (operand budget nested) _ = _ at read ⊢
      rw [List.cons_append, signed]
      simp only [written, read]
      rfl
  | .unsigned inner => by
      intro rest fits stops
      obtain ⟨rounds, more, start⟩ := operand_taken reads inner rest fits
      have read := start.trans (suffixes_end more stops.call stops.index _)
      obtain ⟨first, others, rfl, _, unsigned⟩ := inner.front
      show Grammar.signed (operand budget nested) _ = _
      rw [List.cons_append, signed]
      simp only [unsigned]
      exact read

/-- After so many operands there is room for the rest of them. -/
theorem chain_taken (reads : ReadsShort budget nested) {level : Level} {count : Nat}
    {tokens : List Token} {node : Node} :
    Chain level count tokens node → count ≤ maxNesting → ∀ rest : List Token,
      (tokens ++ rest).length ≤ budget → Stops level.below (front? rest) →
      chain level (level.below.parser budget nested) (tokens ++ rest)
        = chainAfter level (level.below.parser budget nested) (maxNesting - count) node rest
  | .one inner => by
      intro _ rest fits stops
      unfold chain
      rw [bind_ok (expression_taken reads inner rest fits stops)]
  | .more left written right => by
      intro within rest fits stops
      rw [List.append_assoc, List.cons_append] at fits ⊢
      rw [chain_taken reads left (Nat.le_of_succ_le within) _ fits (stops_operator written)]
      obtain ⟨room, shape⟩ := Nat.exists_eq_add_of_le within
      rw [show maxNesting - _ = room + 1 by omega, show maxNesting - (_ + 1) = room by omega,
        chainAfter, operatorAhead?_bind, front?_cons, Option.bind_some, written]
      show (skip >>= _) _ = _
      rw [skip_bind, bind_ok (expression_taken reads right rest ?_ stops)]
      simp only [List.length_append, List.length_cons] at fits ⊢
      omega

end

/-! ## Statements -/

/-- How a statement goes on that begins with a word, given all of its tokens and those
after the word. -/
def afterWord (budget : Nat) (nested : Phrase → Parser Node) (tokens others : List Token) :
    Keyword → Except SyntaxError (Node × List Token)
  | .printWord => printTail budget nested others
  | .ifWord => ifTail nested others
  | .whileWord => whileTail nested others
  | .returnWord => returnTail budget nested others
  | .functionWord =>
      if front? others = some .name then functionStatement budget nested tokens
      else assignment budget nested tokens
  | _ => assignment budget nested tokens

omit reads in
theorem acceptEmptyParens_elsewhere {tokens : List Token}
    (apart : front? tokens = some (.symbol .leftParen) →
      front? tokens.tail ≠ some (.symbol .rightParen)) :
    acceptEmptyParens tokens = .ok (false, tokens) := by
  unfold acceptEmptyParens
  split
  · rename_i first second others
    rw [if_neg]
    rintro ⟨opening, closing⟩
    exact apart (by simp [opening]) (by simp [closing])
  · rfl

omit reads in
theorem printTail_bare (bare : EndsBare (front? rest)) :
    printTail budget nested rest = .ok (.print none, rest) := by
  have no_parens : front? rest ≠ some (.symbol .leftParen) :=
    (Ends.bare bare).stops .loosest |>.call
  unfold printTail
  rw [bind_ok (acceptEmptyParens_elsewhere fun paren => absurd paren no_parens),
    if_neg Bool.false_ne_true, ahead_bind, if_pos ((endsStatement_iff _).mpr bare)]
  rfl

omit reads in
theorem printTail_empty {first last : Token} (opening : first.terminal = .symbol .leftParen)
    (closing : last.terminal = .symbol .rightParen) :
    printTail budget nested (first :: last :: rest) = .ok (.print none, rest) := by
  have accepted : acceptEmptyParens (first :: last :: rest) = .ok (true, rest) :=
    if_pos ⟨opening, closing⟩
  unfold printTail
  rw [bind_ok accepted, if_pos rfl]
  rfl

theorem printTail_value (inner : Expression .loosest tokens node)
    (stops : Stops .loosest (front? rest)) (fits : (tokens ++ rest).length ≤ budget) :
    printTail budget nested (tokens ++ rest) = .ok (.print (some node), rest) := by
  have read : expression budget nested (tokens ++ rest) = .ok (node, rest) :=
    expression_taken reads inner rest fits stops
  obtain ⟨first, others, rfl, begins⟩ := inner.front
  have apart : front? (first :: others ++ rest) = some (.symbol .leftParen) →
      front? (first :: others ++ rest).tail ≠ some (.symbol .rightParen) := by
    intro paren same
    obtain ⟨second, front, beginning⟩ := (begins.append rest).parens (Option.some.inj paren)
    rw [Option.some.inj (front.symm.trans same)] at beginning
    cases beginning
  unfold printTail
  rw [bind_ok (acceptEmptyParens_elsewhere apart), if_neg Bool.false_ne_true, ahead_bind,
    if_neg (by simp [begins.not_ends]), bind_ok read]
  rfl

omit reads in
theorem returnTail_bare (bare : EndsBare (front? rest)) :
    returnTail budget nested rest = .ok (.result none, rest) := by
  unfold returnTail
  rw [ahead_bind, if_pos ((endsStatement_iff _).mpr bare)]
  rfl

theorem returnTail_value (inner : Expression .loosest tokens node)
    (stops : Stops .loosest (front? rest)) (fits : (tokens ++ rest).length ≤ budget) :
    returnTail budget nested (tokens ++ rest) = .ok (.result (some node), rest) := by
  have read : expression budget nested (tokens ++ rest) = .ok (node, rest) :=
    expression_taken reads inner rest fits stops
  obtain ⟨first, others, rfl, begins⟩ := inner.front
  unfold returnTail
  rw [ahead_bind, if_neg (by simp [begins.not_ends]), bind_ok read]
  rfl

/-- An expression with no equals sign after it is read as a statement of its own. -/
theorem assignment_value (inner : Expression .loosest tokens node)
    (stops : Stops .loosest (front? rest)) (no_sign : front? rest ≠ some (.symbol .equal))
    (fits : (tokens ++ rest).length ≤ budget) :
    assignment budget nested (tokens ++ rest) = .ok (node, rest) := by
  have read : expression budget nested (tokens ++ rest) = .ok (node, rest) :=
    expression_taken reads inner rest fits stops
  unfold assignment
  rw [bind_ok read, ahead_bind, if_neg no_sign]
  rfl

theorem assignment_target {second : List Token} {sign : Token} {target : Name}
    (left : Expression .loosest tokens (.identifier target)) (here : sign.terminal = .symbol .equal)
    (right : Expression .loosest second node) (stops : Stops .loosest (front? rest))
    (fits : (tokens ++ sign :: (second ++ rest)).length ≤ budget) :
    assignment budget nested (tokens ++ sign :: (second ++ rest))
      = .ok (.assign target node, rest) := by
  have sign_stops : Stops .loosest (front? (sign :: (second ++ rest))) := by
    rw [front?_cons, here]
    exact Ends.equal.stops _
  have left_read : expression budget nested (tokens ++ sign :: (second ++ rest)) = _ :=
    expression_taken reads left _ fits sign_stops
  have right_read : expression budget nested (second ++ rest) = .ok (node, rest) :=
    expression_taken reads right rest
      (by simp only [List.length_append, List.length_cons] at fits ⊢; omega) stops
  unfold assignment
  rw [bind_ok left_read, ahead_bind, if_pos (by simp [here])]
  show (skip >>= _) _ = _
  rw [skip_bind, bind_ok right_read]
  rfl

omit reads in
/-- What begins like an expression and not with a brace is read as one or as an
assignment. -/
theorem statement_of_begins {first : Token} {others : List Token} (begins : Begins first others)
    (no_brace : first.terminal ≠ .symbol .leftBrace) :
    statement budget nested (first :: others) = assignment budget nested (first :: others) := by
  have beginning := begins.begins
  unfold statement
  rw [ahead_bind, front?_cons]
  cases here : first.terminal with
  | keyword word =>
      rw [here] at beginning
      cases word with
      | functionWord =>
          have paren : front? others = some (.symbol .leftParen) := begins.function here
          show (if front? others = some .name then _ else _ : Parser Node) _ = _
          rw [if_neg (by simp [paren])]
      | trueWord | falseWord | nullWord => rfl
      | printWord | ifWord | elseWord | whileWord | returnWord => cases beginning
  | symbol sign =>
      cases sign with
      | leftBrace => exact absurd here no_brace
      | _ => rfl
  | _ => rfl

theorem ifTail_only {first second : List Token} {condition consequence : Node}
    (parens : Parenthesized first condition) (statement : Statement next second consequence)
    (follows : Follows next) (behind : front? rest = next)
    (no_else : next ≠ some (.keyword .elseWord))
    (fits : (first ++ (second ++ rest)).length < budget) :
    ifTail nested (first ++ (second ++ rest)) = .ok (.branch condition consequence none, rest) := by
  have shorter : (second ++ rest).length < budget := by
    rw [List.length_append] at fits
    omega
  unfold ifTail
  rw [bind_ok (parenthesized_taken reads parens (Nat.le_of_lt fits)),
    bind_ok (reads.statement statement follows behind shorter), ahead_bind, behind,
    if_neg no_else]
  rfl

theorem ifTail_else {first second third : List Token} {other : Token}
    {condition consequence alternative : Node} (parens : Parenthesized first condition)
    (statement : Statement (some (.keyword .elseWord)) second consequence)
    (here : other.terminal = .keyword .elseWord) (last : Statement next third alternative)
    (follows : Follows next) (behind : front? rest = next)
    (fits : (first ++ (second ++ other :: (third ++ rest))).length < budget) :
    ifTail nested (first ++ (second ++ other :: (third ++ rest)))
      = .ok (.branch condition consequence (some alternative), rest) := by
  have shorter : (second ++ other :: (third ++ rest)).length < budget := by
    rw [List.length_append] at fits
    omega
  have shortest : (third ++ rest).length < budget := by
    rw [List.length_append, List.length_cons] at shorter
    omega
  unfold ifTail
  rw [bind_ok (parenthesized_taken reads parens (Nat.le_of_lt fits)),
    bind_ok (reads.statement statement (.inr rfl) (by simp [here]) shorter), ahead_bind,
    if_pos (by simp [here]), skip_bind, bind_ok (reads.statement last follows behind shortest)]
  rfl

theorem whileTail_taken {first second : List Token} {condition body : Node}
    (parens : Parenthesized first condition) (statement : Statement next second body)
    (follows : Follows next) (behind : front? rest = next)
    (fits : (first ++ (second ++ rest)).length < budget) :
    whileTail nested (first ++ (second ++ rest)) = .ok (.loop condition body, rest) := by
  have shorter : (second ++ rest).length < budget := by
    rw [List.length_append] at fits
    omega
  unfold whileTail
  rw [bind_ok (parenthesized_taken reads parens (Nat.le_of_lt fits)),
    bind_ok (reads.statement statement follows behind shorter)]
  rfl

theorem functionStatement_taken {word target : Token} (here : target.terminal = .name)
    (tail : FunctionTail tokens node)
    (fits : (tokens ++ rest).length ≤ budget) :
    functionStatement budget nested (word :: target :: (tokens ++ rest))
      = .ok (.assign target.named node, rest) := by
  unfold functionStatement
  rw [skip_bind, bind_ok (name_here here _), bind_ok (functionTail_taken reads tail fits)]
  rfl

omit reads in
theorem statement_of_word {first : Token} {word : Keyword}
    (here : first.terminal = .keyword word) (others : List Token) :
    statement budget nested (first :: others)
      = afterWord budget nested (first :: others) others word := by
  unfold statement
  rw [ahead_bind, front?_cons, here]
  cases word with
  | functionWord =>
      show (if front? others = some .name then _ else _ : Parser Node) _ = _
      unfold afterWord
      split <;> rfl
  | _ => rfl

theorem statement_taken (statement : Statement next tokens node) (follows : Follows next)
    (behind : front? rest = next) (fits : (tokens ++ rest).length ≤ budget) :
    Grammar.statement budget nested (tokens ++ rest) = .ok (node, rest) := by
  subst behind
  have stops : Stops .loosest (front? rest) := follows.ends.stops _
  cases statement with
  | barePrint word bare =>
      rw [List.singleton_append, statement_of_word word _]
      exact printTail_bare bare
  | emptyPrint word opening closing =>
      rw [List.cons_append, statement_of_word word _]
      exact printTail_empty opening closing
  | printValue word inner =>
      rw [List.cons_append, statement_of_word word _]
      exact printTail_value reads inner stops (Nat.le_of_succ_le fits)
  | bareReturn word bare =>
      rw [List.singleton_append, statement_of_word word _]
      exact returnTail_bare bare
  | returnValue word inner =>
      rw [List.cons_append, statement_of_word word _]
      exact returnTail_value reads inner stops (Nat.le_of_succ_le fits)
  | ifOnly word condition consequence no_else =>
      rw [List.cons_append, statement_of_word word _, List.append_assoc]
      rw [List.cons_append, List.append_assoc] at fits
      exact ifTail_only reads condition consequence follows rfl no_else fits
  | ifElse word condition consequence other alternative =>
      simp only [List.cons_append, List.append_assoc] at fits ⊢
      rw [statement_of_word word _]
      exact ifTail_else reads condition consequence other alternative follows rfl fits
  | loop word condition body =>
      rw [List.cons_append, statement_of_word word _, List.append_assoc]
      rw [List.cons_append, List.append_assoc] at fits
      exact whileTail_taken reads condition body follows rfl fits
  | function word target tail =>
      rw [List.cons_append, List.cons_append, statement_of_word word _]
      unfold afterWord
      rw [front?_cons, target, if_pos rfl]
      simp only [List.cons_append, List.length_cons] at fits
      exact functionStatement_taken reads target tail (by omega)
  | block block =>
      have front : front? (tokens ++ rest) = some (.symbol .leftBrace) := by
        cases block with
        | braces opening body closing => simp [opening]
      unfold Grammar.statement
      rw [ahead_bind, front]
      exact block_taken reads block fits
  | expression inner no_brace =>
      have no_sign : front? rest ≠ some (.symbol .equal) := by
        rintro same
        rw [same] at follows
        rcases follows with bare | word
        · cases bare
        · cases word
      have read := assignment_value reads inner stops no_sign fits
      obtain ⟨first, others, rfl, begins⟩ := inner.front
      rw [List.cons_append, statement_of_begins (begins.append rest) fun same => no_brace (by
        rw [front?_cons, same])]
      exact read
  | assignment left no_brace here right =>
      rw [List.append_assoc, List.cons_append] at fits ⊢
      have read := assignment_target reads left here right stops fits
      obtain ⟨first, others, rfl, begins⟩ := left.front
      rw [List.cons_append, statement_of_begins (begins.append _) fun same => no_brace (by
        rw [front?_cons, same])]
      exact read

end

/-! ## All rules together -/

/-- With a budget above the length of the tokens the rules read whatever the grammar
derives. -/
theorem readsShort_phrase (budget : Nat) : ReadsShort budget (phrase budget) := by
  induction budget with
  | zero => exact ⟨fun _ _ short => absurd short (Nat.not_lt_zero _),
      fun _ _ _ short => absurd short (Nat.not_lt_zero _)⟩
  | succ budget ih =>
      constructor
      · intro tokens rest node inner stops short
        exact expression_taken ih inner rest (Nat.le_of_lt_succ short) stops
      · intro next tokens rest node inner follows behind short
        exact statement_taken ih inner follows behind (Nat.le_of_lt_succ short)

/-- The parser reads a derived program up to its end marker and yields its tree, whatever
stands behind the marker. -/
theorem program_taken {tokens rest : List Token} {marker : Token} {tree : Node} {budget : Nat}
    (derived : Program tokens tree) (ends : marker.terminal = .endMarker)
    (fits : (tokens ++ marker :: rest).length < budget) :
    program budget (tokens ++ marker :: rest) = .ok (tree, marker :: rest) := by
  cases derived with
  | program body =>
      have read := statements_taken (readsShort_phrase budget) rfl body (marker :: rest) budget
        (by simp [ends]) fits (Nat.le_of_lt fits)
      unfold program
      rw [bind_ok read, ahead_bind, if_pos (by simp [ends])]
      rfl

end Scriptlet.Grammar
