/-
# Proofs.Grammar.Soundness -- every rule settles

Each rule of the parser settles what its phrase is (`Settles`): what it reads the grammar
derives, and where it fails something derivable has been begun and cannot go on.  The rules
are gone through one level at a time, with what is known of all shorter lists of tokens
(`SettlesBelow`), and induction on their length ties the knot (`settlesBelow`).
-/
import Scriptlet.Proofs.Grammar.Completeness
import Scriptlet.Proofs.Grammar.Settling

namespace Scriptlet.Grammar

open Scriptlet.Parser

set_option autoImplicit false

/-- The two rules that contain themselves settle all lists of tokens below a length. -/
structure SettlesBelow (bound : Nat) : Prop where
  expression {extra : Nat} {tokens : List Token} : tokens.length < bound → 0 < extra →
    Settles extra (fun budget => phrase budget .expression) (fun _ => Expression .loosest) tokens
  statement {extra : Nat} {tokens : List Token} : tokens.length < bound → 0 < extra →
    Settles extra (fun budget => phrase budget .statement) Statement tokens

variable {extra bound : Nat} {tokens : List Token} {node : Node}

/-! ## What can be finished -/

/-- A name, which every expression can be. -/
theorem operand_name (text : String) :
    Operand [Token.ofName text] (.identifier (Token.ofName text).named) :=
  .primary (.name rfl)

theorem begun_expression (place : Place) : Begun (fun _ => Expression place) [] :=
  ⟨_, _, .one rfl, (operand_name "").expression place⟩

theorem begun_parenthesized : Begun (fun _ => Parenthesized) [] :=
  ⟨_, _, @Mild.parens [.ofName ""] [] (by simp [Token.ofName, Terminal.isMild]) .nil,
    .parens rfl ((operand_name "").expression _) rfl⟩

theorem begun_entry : Begun (fun _ => Entry) [] :=
  ⟨[⟨.string "", "", 0⟩, .ofSymbol .colon, .ofName ""], ("", _), .plain rfl (.plain rfl (.one rfl)),
    .pair rfl rfl ((operand_name "").expression _)⟩

theorem begun_block : Begun (fun _ => Block) [] :=
  ⟨_, _, .braces .nil, .braces rfl .none rfl⟩

theorem begun_functionTail : Begun (fun _ => FunctionTail) [] := by
  refine ⟨_, .function [] (.block []), @Mild.parens [] _ nofun (.braces .nil), ?_⟩
  exact @FunctionTail.function [_, _] _ _ _ (.empty rfl rfl) (.braces rfl .none rfl)

theorem begun_statement : Begun Statement [] :=
  ⟨_, _, .one rfl, .expression ((operand_name "").expression _) nofun⟩

/-! ## Lists in brackets -/

section

variable {α : Type} {piece : List Token → α → Prop} {item : Nat → Parser α}
  {opening closing : Symbol}

/-- Pieces with commas between them and the closing bracket behind the last. -/
inductive Closed (closing : Symbol) (piece : List Token → α → Prop) :
    List Token → List α → Prop where
  | closed {tokens : List Token} {values : List α} {last : Token} :
      Separated piece tokens values → last.terminal = .symbol closing →
      Closed closing piece (tokens ++ [last]) values

theorem Closed.more {first others : List Token} {comma : Token} {value : α} {values : List α}
    (here : piece first value) (between : comma.terminal = .symbol .comma)
    (closed : Closed closing piece others values) :
    Closed closing piece (first ++ comma :: others) (value :: values) := by
  cases closed with
  | closed pieces last =>
      rw [← List.cons_append, ← List.append_assoc]
      exact .closed (.more here between pieces) last

theorem settles_separated (mild : (Terminal.symbol closing).isMild)
    (begun : Begun (fun _ => piece) [])
    (items : ∀ {extra tokens}, tokens.length < bound → 0 < extra →
      Settles extra item (fun _ => piece) tokens)
    (taken : Nat) {extra : Nat} (tokens : List Token) (fits : tokens.length < bound)
    (enough : taken < extra) :
    Settles extra (fun budget => separated (item budget) closing (budget - taken))
      (fun _ => Closed closing piece) tokens := by
  have close : ∀ (phrase : List Token) (values : List α), Separated piece phrase values →
      ∃ result, Closed closing piece (phrase ++ [.ofSymbol closing]) result :=
    fun _ values pieces => ⟨values, .closed pieces rfl⟩
  have body : Settles extra (fun budget => item budget >>= fun first =>
      accept .comma >>= fun here => if here = true then
        separated (item budget) closing (budget - (taken + 1)) >>= fun others =>
          pure (first :: others)
      else accept closing >>= fun here => if here = true then pure [first]
      else fail (.either .comma closing)) (fun _ => Closed closing piece) tokens := by
    refine (items fits (by omega)).bind (fun used rest _ begun => begun.then _ (.one mild)
      fun phrase value here => close phrase _ (.one here)) fun used rest value shape here => ?_
    refine settles_accept (fun comma others shape' between => ?_) fun _ => ?_
    · subst shape shape'
      simp only [List.length_append, List.length_cons] at fits
      have remain : Settles (extra + used.length + 1) _ _ _ :=
        settles_separated mild begun items (taken + 1) others (by omega) (by omega)
      exact remain.map fun _ _ _ closed => closed.more here between
    · refine settles_accept (fun last others shape' closes => ?_) fun _ => ?_
      · exact settles_pure (.closed (.one here) closes)
      · exact settles_fail ⟨[.ofSymbol closing], [value], .one mild, .closed (.one here) rfl⟩
  exact body.round (fun budget => separated (item budget) closing) (fun _ => rfl) enough
termination_by tokens.length
decreasing_by
  subst shape shape'
  simp only [List.length_append, List.length_cons]
  omega

/-- The list behind an opening bracket that has been taken. -/
theorem settles_listOf {first : Token} (opens : first.terminal = .symbol opening)
    (mild : (Terminal.symbol closing).isMild) (begun : Begun (fun _ => piece) [])
    (items : ∀ {extra tokens}, tokens.length < bound → 0 < extra →
      Settles extra item (fun _ => piece) tokens)
    (fits : tokens.length < bound) (enough : 0 < extra) :
    Settles extra (fun budget => listOf budget (item budget) closing)
      (Rule.after (fun _ => Enclosed opening closing piece) [first]) tokens := by
  refine settles_accept (fun last rest _ closes => settles_pure (.empty opens closes)) fun _ => ?_
  refine (settles_separated mild begun items 0 tokens fits enough).imp ?_
  rintro _ _ values ⟨pieces, closes⟩
  exact .full opens pieces closes

end

section

variable (below : SettlesBelow bound)
include below

theorem settles_arguments {first : Token} {opening closing : Symbol}
    (opens : first.terminal = .symbol opening) (mild : (Terminal.symbol closing).isMild)
    (fits : tokens.length < bound) (enough : 0 < extra) :
    Settles extra (fun budget => listOf budget (phrase budget .expression) closing)
      (Rule.after (fun _ => Enclosed opening closing (Expression .loosest)) [first]) tokens :=
  settles_listOf opens mild (begun_expression _) below.expression fits enough

/-! ## Expressions -/

theorem settles_parenthesized (fits : tokens.length ≤ bound) :
    Settles extra (fun budget => parenthesized (phrase budget)) (fun _ => Parenthesized)
      tokens := by
  refine settles_symbol begun_parenthesized fun first rest shape opens => ?_
  subst shape
  refine (below.expression fits (Nat.succ_pos _)).bind
    (fun _ _ _ begun => begun.then [.ofSymbol .rightParen] (.one rfl) fun _ node inner =>
      ⟨node, .parens opens inner rfl⟩)
    fun used rest node _ inner => ?_
  refine settles_symbol ⟨[.ofSymbol .rightParen], node, .one rfl, .parens opens inner rfl⟩
    fun last _ _ closes => ?_
  exact settles_pure (.parens opens inner closes)

theorem settles_entry (fits : tokens.length ≤ bound) :
    Settles extra (fun budget => entry (phrase budget)) (fun _ => Entry) tokens := by
  have missing : Settles extra (fun _ => fail .string) (fun _ => Entry) tokens :=
    settles_fail begun_entry
  refine settles_ahead ?_
  cases tokens with
  | nil => exact missing
  | cons key rest =>
      obtain ⟨terminal, lexeme, position⟩ := key
      cases terminal with
      | string text =>
          refine settles_skip (settles_symbol ?_ fun colon others shape here => ?_)
          · exact ⟨[.ofSymbol .colon, .ofName ""], (text, _), .plain rfl (.one rfl),
              .pair rfl rfl ((operand_name "").expression _)⟩
          · subst shape
            refine (below.expression (Nat.lt_of_succ_lt fits) (Nat.succ_pos _)).map ?_
            exact fun _ _ _ value => .pair rfl here value
      | _ => exact missing

/-- Calls and indices behind an operand; there are rounds left for all of them. -/
theorem settles_suffixes (taken : List Token) (node : Node) (operand : Operand taken node)
    (count : Nat) {extra : Nat} (tokens : List Token) (fits : tokens.length < bound)
    (enough : count < extra) :
    Settles extra (fun budget => suffixes budget (phrase budget) (budget - count) node)
      (Rule.after (fun _ => Operand) taken) tokens := by
  have body : Settles extra (fun budget =>
      accept .leftParen >>= fun here => if here = true then
        listOf budget (phrase budget .expression) .rightParen >>= fun arguments =>
          suffixes budget (phrase budget) (budget - (count + 1)) (.call node arguments)
      else accept .leftBracket >>= fun here => if here = true then
        accept .rightBracket >>= fun here => if here = true then
          suffixes budget (phrase budget) (budget - (count + 1)) (.index node none)
        else phrase budget .expression >>= fun position => symbol .rightBracket >>= fun _ =>
          suffixes budget (phrase budget) (budget - (count + 1)) (.index node (some position))
      else pure node) (Rule.after (fun _ => Operand) taken) tokens := by
    refine settles_accept (fun first rest shape opens => ?_) fun _ =>
      settles_accept (fun first rest shape opens => ?_) fun _ => ?_
    · subst shape
      simp only [List.length_cons] at fits
      refine (settles_arguments below opens rfl (Nat.lt_of_succ_lt fits)
        (Nat.succ_pos _)).bind ?_ ?_
      · rintro used others shape ⟨more, _, finishes, inner⟩
        exact ⟨more, _, finishes, .call operand inner⟩
      · intro used others arguments shape inner
        subst shape
        rw [List.length_append] at fits
        rw [Rule.after_after, Rule.after_after]
        exact settles_suffixes _ _ (.call operand inner) (count + 1) others (by omega) (by omega)
    · subst shape
      simp only [List.length_cons] at fits
      refine settles_accept (fun last others shape closes => ?_) fun _ => ?_
      · subst shape
        rw [List.length_cons] at fits
        rw [Rule.after_after, Rule.after_after]
        exact settles_suffixes _ _ (.bareIndex operand opens closes) (count + 1) others (by omega)
          (by omega)
      · refine (below.expression (Nat.lt_of_succ_lt fits) (Nat.succ_pos _)).bind ?_ ?_
        · intro used others shape begun
          refine begun.then [.ofSymbol .rightBracket] (.one rfl) ?_
          intro phrase position inner
          exact ⟨_, .index operand opens inner rfl⟩
        · intro used others position shape inner
          refine settles_symbol ⟨[.ofSymbol .rightBracket], _, .one rfl,
            .index operand opens inner rfl⟩ fun last others' shape' closes => ?_
          subst shape shape'
          simp only [List.length_append, List.length_cons] at fits
          rw [Rule.after_after, Rule.after_after, Rule.after_after]
          exact settles_suffixes _ _ (.index operand opens inner closes) (count + 1) others'
            (by omega) (by omega)
    · refine settles_pure ?_
      show Operand (taken ++ []) node
      rw [List.append_nil]
      exact operand
  exact body.round (fun budget rounds => suffixes budget (phrase budget) rounds node)
    (fun _ => rfl) enough
termination_by tokens.length
decreasing_by
  all_goals
    subst_vars
    simp only [List.length_append, List.length_cons]
    omega

/-! ## Statements in braces -/

omit below in
theorem settles_skipSemicolons :
    Settles extra (fun _ => skipSemicolons)
      (fun _ taken _ => ∀ token ∈ taken, token.terminal = .symbol .semicolon) tokens := by
  let isSemicolon := fun token : Token => decide (token.terminal = .symbol .semicolon)
  have all : ∀ token ∈ tokens.takeWhile isSemicolon, token.terminal = .symbol .semicolon :=
    fun token member => by
      simpa [isSemicolon] using List.all_eq_true.mp List.all_takeWhile token member
  have stop : front? (tokens.dropWhile isSemicolon) ≠ some (.symbol .semicolon) := by
    have no_semicolon := List.head?_dropWhile_not isSemicolon tokens
    intro same
    obtain ⟨token, head, here⟩ := Option.map_eq_some_iff.mp same
    rw [head] at no_semicolon
    simp [isSemicolon, here] at no_semicolon
  exact .reads (tokens.takeWhile isSemicolon) (tokens.dropWhile isSemicolon) ()
    List.takeWhile_append_dropWhile.symm all fun budget other heads _ =>
      skipSemicolons_all all (by rw [front?_congr heads]; exact stop)

/-- Statements up to where a list of them ends; there are rounds left for all of them. -/
theorem settles_statements (count : Nat) {extra : Nat} (tokens : List Token)
    (fits : tokens.length < bound) (enough : count < extra) :
    Settles extra (fun budget => statements (phrase budget .statement) (budget - count))
      Statements tokens := by
  have body : Settles extra (fun budget => ahead >>= fun terminal =>
      if endsStatements terminal = true then pure []
      else phrase budget .statement >>= fun first =>
        accept .semicolon >>= fun here => if here = true then
          skipSemicolons >>= fun _ =>
            statements (phrase budget .statement) (budget - (count + 1)) >>= fun others =>
              pure (first :: others)
        else pure [first]) Statements tokens := by
    refine settles_ahead ?_
    by_cases ends : endsStatements (front? tokens) = true
    · simp only [if_pos ends]
      exact settles_pure .none
    · simp only [if_neg ends]
      refine (below.statement fits (by omega)).bind ?_ ?_
      · rintro used rest shape ⟨more, node, finishes, first⟩
        exact ⟨more, [node], finishes, .last first⟩
      intro used rest node shape first
      refine settles_accept (fun semicolon others shape' here => ?_) fun _ => ?_
      · subst shape shape'
        rw [front?_cons, here] at first
        simp only [List.length_append, List.length_cons] at fits
        have longer : ∀ (semicolons rest : List Token) (next : Option Terminal)
            (nodes : List Node), (∀ token ∈ semicolons, token.terminal = .symbol .semicolon) →
            Statements next rest nodes →
            Statements next (used ++ semicolon :: (semicolons ++ rest)) (node :: nodes) :=
          fun semicolons rest next nodes all others => .more first
            ⟨List.cons_ne_nil _ _, List.forall_mem_cons.mpr ⟨here, all⟩⟩ others
        refine settles_skipSemicolons.bind ?_ ?_
        · rintro taken rest shape ⟨more, _, finishes, all⟩
          have finished := longer (taken ++ more) [] (some .endMarker) [] all .none
          rw [List.append_nil] at finished
          exact ⟨more, [node], finishes, finished⟩
        · intro taken rest _ shape all
          subst shape
          rw [List.length_append] at fits
          have remain : Settles (extra + used.length + 1 + taken.length) _ _ _ :=
            settles_statements (count + 1) rest (by omega) (by omega)
          exact remain.map fun next _ nodes others => longer taken _ next nodes all others
      · refine settles_pure ?_
        show Statements (front? rest) (used ++ []) [node]
        rw [List.append_nil]
        exact .last first
  exact body.round (fun budget => statements (phrase budget .statement)) (fun _ => rfl) enough
termination_by tokens.length
decreasing_by
  subst_vars
  simp only [List.length_append, List.length_cons]
  omega

theorem settles_block (fits : tokens.length ≤ bound) :
    Settles extra (fun budget => block budget (phrase budget)) (fun _ => Block) tokens := by
  refine settles_symbol begun_block fun first rest shape opens => ?_
  subst shape
  refine (settles_statements below 0 rest fits (Nat.succ_pos _)).bind ?_ ?_
  · intro used others shape begun
    refine begun.then [.ofSymbol .rightBrace] (.one rfl) ?_
    intro phrase body inner
    exact ⟨.block body, .braces opens (inner.before .rightBrace) rfl⟩
  · intro used others body _ inner
    refine settles_symbol ⟨[.ofSymbol .rightBrace], .block body, .one rfl,
      .braces opens (inner.before .rightBrace) rfl⟩ fun last others' shape closes => ?_
    subst shape
    rw [front?_cons, closes] at inner
    exact settles_pure (.braces opens inner closes)

omit below in
theorem settles_parameter : Settles extra (fun _ => name) (fun _ => Parameter) tokens :=
  settles_name ⟨[.ofName ""], _, .one rfl, .name rfl⟩ fun _ _ _ here => .name here

theorem settles_functionTail (fits : tokens.length ≤ bound) :
    Settles extra (fun budget => functionTail budget (phrase budget)) (fun _ => FunctionTail)
      tokens := by
  refine settles_symbol begun_functionTail fun first rest shape opens => ?_
  subst shape
  have items {extra : Nat} {tokens : List Token} (_ : tokens.length < bound) (_ : 0 < extra) :
      Settles extra (fun _ => name) (fun _ => Parameter) tokens := settles_parameter
  refine (settles_listOf opens rfl ⟨[.ofName ""], _, .one rfl, .name rfl⟩ items fits
      (Nat.succ_pos _)).bind ?_ ?_
  · intro used others shape begun
    refine begun.then [.ofSymbol .leftBrace, .ofSymbol .rightBrace] (.braces .nil) ?_
    intro phrase parameters listed
    have body : Block [.ofSymbol .leftBrace, .ofSymbol .rightBrace] (.block []) :=
      .braces rfl .none rfl
    exact ⟨_, @FunctionTail.function (first :: phrase) _ _ _ listed body⟩
  · intro used others parameters shape listed
    subst shape
    rw [List.length_cons, List.length_append] at fits
    refine (settles_block below (by omega)).map fun _ inner _ body => ?_
    exact @FunctionTail.function (first :: used) inner _ _ listed body

/-! ## Operands -/

theorem settles_primary (fits : tokens.length ≤ bound) :
    Settles extra (fun budget => primary budget (phrase budget)) (fun _ => Primary) tokens := by
  have missing : Settles extra (fun _ => fail .expression) (fun _ => Primary) tokens :=
    settles_fail ⟨[.ofName ""], _, .one rfl, .name rfl⟩
  refine settles_ahead ?_
  cases tokens with
  | nil => exact missing
  | cons token rest =>
      have shorter : rest.length < bound := fits
      obtain ⟨terminal, lexeme, position⟩ := token
      cases terminal with
      | endMarker => exact missing
      | integer value => exact settles_skip (settles_pure (.integer rfl))
      | float value => exact settles_skip (settles_pure (.float rfl))
      | string value => exact settles_skip (settles_pure (.string rfl))
      | name => exact settles_parameter.map fun _ _ _ ⟨here⟩ => .name here
      | keyword word =>
          cases word with
          | trueWord => exact settles_skip (settles_pure (.trueWord rfl))
          | falseWord => exact settles_skip (settles_pure (.falseWord rfl))
          | nullWord => exact settles_skip (settles_pure (.nullWord rfl))
          | functionWord =>
              exact settles_skip ((settles_functionTail below (Nat.le_of_lt shorter)).imp
                fun _ _ _ tail => .function rfl tail)
          | _ => exact missing
      | symbol sign =>
          cases sign with
          | leftParen =>
              exact (settles_parenthesized below fits).imp fun _ _ _ inner => .parenthesized inner
          | leftBracket =>
              exact settles_skip ((settles_arguments below rfl rfl shorter (Nat.succ_pos _)).map
                fun _ _ _ elements => .list elements)
          | leftBrace =>
              have items {extra : Nat} {tokens : List Token} (short : tokens.length < bound)
                  (_ : 0 < extra) : Settles extra _ (fun _ => Entry) tokens :=
                settles_entry below (Nat.le_of_lt short)
              exact settles_skip ((settles_listOf rfl rfl begun_entry items shorter
                (Nat.succ_pos _)).map fun _ _ _ entries => .map entries)
          | _ => exact missing

theorem settles_operand (fits : tokens.length ≤ bound) :
    Settles extra (fun budget => operand budget (phrase budget)) (fun _ => Operand) tokens := by
  refine (settles_primary below fits).bind ?_ ?_
  · rintro used rest shape ⟨more, node, finishes, inner⟩
    exact ⟨more, node, finishes, .primary inner⟩
  · intro used rest node shape inner
    obtain ⟨first, others, rfl, -⟩ := inner.front
    subst shape
    simp only [List.length_append, List.length_cons] at fits
    exact settles_suffixes below _ _ (.primary inner) 0 rest (by omega)
      (Nat.lt_add_left extra (Nat.succ_pos _))

theorem settles_signed (tokens : List Token) (fits : tokens.length ≤ bound) {extra : Nat} :
    Settles extra (fun budget => signed (operand budget (phrase budget)))
      (fun _ => Expression .signed) tokens := by
  have unsigned {extra : Nat} (tokens : List Token) (fits : tokens.length ≤ bound) :
      Settles extra _ (fun _ => Expression .signed) tokens :=
    (settles_operand below fits).imp fun _ _ _ inner => .unsigned inner
  induction tokens generalizing extra with
  | nil =>
      refine (unsigned [] fits).congr fun budget list heads _ => ?_
      rw [List.head?_eq_none_iff.mp heads]
      rfl
  | cons token rest ih =>
      cases written : signOperator? token.terminal with
      | none =>
          refine (unsigned (token :: rest) fits).congr fun budget list heads _ => ?_
          obtain ⟨others, rfl⟩ := List.head?_eq_some_iff.mp heads
          rw [signed, written]
      | some operator =>
          have operand_here : Settles (extra + 1) _ _ _ := (ih (Nat.le_of_succ_le fits)).map
            fun next more node inner => Expression.sign written inner
          refine settles_take (fun budget list => ?_) operand_here
          rw [signed, written]
          rfl

/-! ## Operators -/

omit below in
/-- Further operands of a chain; with those there are already the room allows so many. -/
theorem settles_chainAfter {level : Level} (chained : level ≠ .comparison)
    {operand : Nat → Parser Node}
    (operands : ∀ {extra tokens}, tokens.length ≤ bound →
      Settles extra operand (fun _ => Expression level.below) tokens)
    (room : Nat) {count : Nat} (within : count + room = maxNesting) {taken : List Token}
    {left : Node} (chain : Chain level count taken left) {extra : Nat} {tokens : List Token}
    (fits : tokens.length ≤ bound) :
    Settles extra (fun budget => chainAfter level (operand budget) room left)
      (Rule.after (fun _ => Expression (.level level)) taken) tokens := by
  have whole : ∀ {count : Nat} {taken : List Token} {left : Node}, Chain level count taken left →
      count ≤ maxNesting → Expression (.level level) (taken ++ []) left := by
    intro count taken left chain within
    rw [List.append_nil]
    exact .chain chained chain within
  induction room generalizing count taken left extra tokens with
  | zero =>
      refine settles_operatorAhead? ?_
      cases written : (front? tokens).bind level.operator? with
      | none => exact settles_pure (whole chain (by omega))
      | some operator => exact settles_fail ⟨[], left, .nil, whole chain (by omega)⟩
  | succ room ih =>
      refine settles_operatorAhead? ?_
      cases written : (front? tokens).bind level.operator? with
      | none => exact settles_pure (whole chain (by omega))
      | some operator =>
          obtain ⟨terminal, front, written⟩ := Option.bind_eq_some_iff.mp written
          cases tokens with
          | nil => cases front
          | cons sign rest =>
              cases front
              refine settles_skip ((operands (Nat.le_of_succ_le fits)).bind ?_ ?_)
              · rintro used others shape ⟨more, right, finishes, inner⟩
                have longer := Chain.more chain written inner
                exact ⟨more, _, finishes, .chain chained longer (by omega)⟩
              · intro used others right shape inner
                subst shape
                rw [List.length_cons, List.length_append] at fits
                have longer := Chain.more chain written inner
                rw [Rule.after_after, Rule.after_after]
                exact ih (by omega) longer (by omega)

omit below in
theorem settles_chain {level : Level} (chained : level ≠ .comparison)
    {operand : Nat → Parser Node}
    (operands : ∀ {extra tokens}, tokens.length ≤ bound →
      Settles extra operand (fun _ => Expression level.below) tokens)
    {extra : Nat} {tokens : List Token} (fits : tokens.length ≤ bound) :
    Settles extra (fun budget => chain level (operand budget))
      (fun _ => Expression (.level level)) tokens := by
  refine (operands fits).bind ?_ ?_
  · rintro used rest shape ⟨more, node, finishes, inner⟩
    exact ⟨more, node, finishes, .of_below inner⟩
  · intro used rest node shape inner
    have remain : rest.length ≤ bound := by
      rw [shape, List.length_append] at fits
      omega
    exact settles_chainAfter chained operands (maxNesting - 1) rfl (.one inner) remain

omit below in
theorem settles_comparison {operand : Nat → Parser Node}
    (operands : ∀ {extra tokens}, tokens.length ≤ bound →
      Settles extra operand (fun _ => Expression (.level .sum)) tokens)
    {extra : Nat} {tokens : List Token} (fits : tokens.length ≤ bound) :
    Settles extra (fun budget => comparison (operand budget))
      (fun _ => Expression (.level .comparison)) tokens := by
  refine (operands fits).bind ?_ ?_
  · rintro used rest shape ⟨more, node, finishes, inner⟩
    exact ⟨more, node, finishes, .uncompared inner⟩
  intro used rest left shape first
  refine settles_operatorAhead? ?_
  cases written : (front? rest).bind Level.comparison.operator? with
  | none =>
      refine settles_pure ?_
      show Expression _ (used ++ []) left
      rw [List.append_nil]
      exact .uncompared first
  | some operator =>
      obtain ⟨terminal, front, written⟩ := Option.bind_eq_some_iff.mp written
      cases rest with
      | nil => cases front
      | cons sign rest =>
          cases front
          rw [shape, List.length_append, List.length_cons] at fits
          exact settles_skip ((operands (by omega)).map fun _ _ _ second =>
            .compared first written second)

theorem settles_expression {extra : Nat} {tokens : List Token} (fits : tokens.length ≤ bound) :
    Settles extra (fun budget => expression budget (phrase budget))
      (fun _ => Expression .loosest) tokens :=
  settles_chain (by decide) (settles_chain (by decide) (settles_comparison
    (settles_chain (by decide) (settles_chain (by decide)
      fun fits => settles_signed below _ fits)))) fits

/-! ## Statements -/

/-- An expression whose first token has been taken already, because what stands behind that
token had to be looked at. -/
theorem settles_expression_uncons {first : Token} {more : List Token}
    (inner : Expression .loosest (first :: more) node) {extra : Nat} {rest : List Token}
    (fits : (first :: rest).length ≤ bound) :
    Settles (extra + 1) (fun budget list => expression budget (phrase budget) (first :: list))
      (Rule.after (fun _ => Expression .loosest) [first]) rest := by
  refine (settles_expression below fits).uncons (fun _ value nothing => ?_) ?_
  · obtain ⟨_, _, shape, _⟩ := nothing.front
    cases shape
  · let budget := extra + (first :: more).length
    have read : expression budget (phrase budget) (first :: more ++ []) = _ :=
      expression_taken (readsShort_phrase budget) inner [] (by simp [budget]) (Ends.nothing.stops _)
    rw [List.append_nil] at read
    exact ⟨budget, more, _, Nat.le_refl _, read⟩

theorem settles_printTail {word : Token} (here : word.terminal = .keyword .printWord)
    (fits : tokens.length ≤ bound) :
    Settles extra (fun budget => printTail budget (phrase budget)) (Rule.after Statement [word])
      tokens := by
  by_cases paren : front? tokens = some (.symbol .leftParen)
  · cases tokens with
    | nil => cases paren
    | cons first rest =>
        have opens := Option.some.inj paren
        have inner : Expression .loosest [first, .ofName "", .ofSymbol .rightParen] _ :=
          (Operand.primary (.parenthesized (.parens opens ((operand_name "").expression _)
            rfl))).expression _
        let later : Nat → Parser Node := fun budget list =>
          expression budget (phrase budget) (first :: list)
        have value_read : Settles (extra + 1)
            (fun budget => later budget >>= fun value => pure (.print (some value)))
            ((Rule.after Statement [word]).after [first]) rest :=
          (settles_expression_uncons below inner fits).map fun _ _ _ value =>
            .printValue here value
        refine settles_take (fun _ _ => rfl) (settles_either
          (fun _ _ list closes => printTail_empty opens closes)
          (fun budget list elsewhere => ?_)
          (fun last others _ closes => settles_pure (.emptyPrint here opens closes))
          fun _ => value_read)
        have untaken : acceptEmptyParens (first :: list) = .ok (false, first :: list) :=
          acceptEmptyParens_elsewhere fun _ => elsewhere
        unfold printTail
        rw [bind_ok untaken, if_neg Bool.false_ne_true, ahead_bind,
          if_neg (by simp [opens, endsStatement, endsStatements])]
        rfl
  · have body : Settles extra (fun budget => ahead >>= fun terminal =>
        if endsStatement terminal = true then pure (.print none)
        else expression budget (phrase budget) >>= fun value => pure (.print (some value)))
        (Rule.after Statement [word]) tokens := by
      refine settles_ahead ?_
      by_cases ends : endsStatement (front? tokens) = true
      · simp only [if_pos ends]
        exact settles_pure (.barePrint here ((endsStatement_iff _).mp ends))
      · simp only [if_neg ends]
        exact (settles_expression below fits).map fun _ _ _ value => .printValue here value
    refine body.congr fun budget list heads _ => ?_
    unfold printTail
    rw [bind_ok (acceptEmptyParens_elsewhere fun same => absurd same (by
      rw [front?_congr heads]; exact paren)), if_neg Bool.false_ne_true]

theorem settles_returnTail {word : Token} (here : word.terminal = .keyword .returnWord)
    (fits : tokens.length ≤ bound) :
    Settles extra (fun budget => returnTail budget (phrase budget)) (Rule.after Statement [word])
      tokens := by
  refine settles_ahead ?_
  by_cases ends : endsStatement (front? tokens) = true
  · simp only [if_pos ends]
    exact settles_pure (.bareReturn here ((endsStatement_iff _).mp ends))
  · simp only [if_neg ends]
    exact (settles_expression below fits).map fun _ _ _ value => .returnValue here value

/-- A condition in parentheses, and a statement that is still to come. -/
theorem settles_condition {word : Token} {next : Nat → Node → Parser Node}
    (fits : tokens.length < bound)
    (plain : ∀ condition phrase, Parenthesized phrase condition →
      ∃ node, Statement (some .endMarker) (word :: (phrase ++ [.ofName ""])) node)
    (goes_on : ∀ used rest condition, Parenthesized used condition → rest.length < bound →
      Settles (extra + used.length) (fun budget => next budget condition)
        (fun next more => Statement next (word :: (used ++ more))) rest) :
    Settles extra (fun budget => parenthesized (phrase budget) >>= next budget)
      (Rule.after Statement [word]) tokens := by
  refine (settles_parenthesized below (Nat.le_of_lt fits)).bind ?_ ?_
  · intro used rest shape begun
    refine begun.then [.ofName ""] (.one rfl) ?_
    intro phrase condition parens
    exact plain condition phrase parens
  · intro used rest condition shape parens
    refine goes_on used rest condition parens ?_
    rw [shape, List.length_append] at fits
    omega

omit below in
theorem statement_name (next : Option Terminal) :
    Statement next [.ofName ""] (.identifier (Token.ofName "").named) :=
  .expression ((operand_name "").expression _) nofun

theorem settles_ifTail {word : Token} (here : word.terminal = .keyword .ifWord)
    (fits : tokens.length < bound) (enough : 0 < extra) :
    Settles extra (fun budget => ifTail (phrase budget)) (Rule.after Statement [word])
      tokens := by
  refine settles_condition below fits
    (fun _ _ parens => ⟨_, .ifOnly here parens (statement_name _) nofun⟩)
    fun used rest condition parens fits => ?_
  refine (below.statement fits (by omega)).bind ?_ ?_
  · rintro used' rest' shape ⟨more, _, finishes, inner⟩
    exact ⟨more, _, finishes, .ifOnly here parens inner nofun⟩
  intro used' rest' consequence shape inner
  refine settles_ahead ?_
  by_cases elseWord : front? rest' = some (.keyword .elseWord)
  · simp only [if_pos elseWord]
    cases rest' with
    | nil => cases elseWord
    | cons other rest'' =>
        rw [elseWord] at inner
        rw [shape, List.length_append, List.length_cons] at fits
        exact settles_skip ((below.statement (by omega) (by omega)).map
          fun _ _ _ alternative => .ifElse here parens inner (Option.some.inj elseWord) alternative)
  · simp only [if_neg elseWord]
    refine settles_pure ?_
    show Statement (front? rest') (word :: (used ++ (used' ++ []))) _
    rw [List.append_nil]
    exact .ifOnly here parens inner elseWord

theorem settles_whileTail {word : Token} (here : word.terminal = .keyword .whileWord)
    (fits : tokens.length < bound) (enough : 0 < extra) :
    Settles extra (fun budget => whileTail (phrase budget)) (Rule.after Statement [word])
      tokens := by
  refine settles_condition below fits
    (fun _ _ parens => ⟨_, .loop here parens (statement_name _)⟩)
    fun used rest condition parens fits => ?_
  exact (below.statement fits (by omega)).map fun _ _ _ body => .loop here parens body

/-- What follows an expression at the front of a statement, of which some tokens may have been
taken already. -/
theorem settles_assignment {first : Nat → Parser Node} (taken : List Token)
    (no_brace : front? (taken ++ tokens) ≠ some (.symbol .leftBrace))
    (settles : Settles extra first (Rule.after (fun _ => Expression .loosest) taken) tokens)
    (fits : tokens.length ≤ bound) :
    Settles extra (fun budget => first budget >>= fun target => ahead >>= fun terminal =>
      if terminal = some (.symbol .equal) then
        match target with
        | .identifier target => skip >>= fun _ =>
            expression budget (phrase budget) >>= fun value => pure (.assign target value)
        | _ => fail .assignmentTarget
      else pure target) (Rule.after Statement taken) tokens := by
  refine settles.bind ?_ ?_
  · rintro used rest shape ⟨more, node, finishes, inner⟩
    cases nothing : taken ++ used with
    | nil =>
        obtain ⟨rfl, rfl⟩ := List.append_eq_nil_iff.mp nothing
        exact begun_statement
    | cons token others =>
        refine ⟨more, node, finishes, .expression inner ?_⟩
        rw [← List.append_assoc, nothing]
        rw [shape, ← List.append_assoc, nothing] at no_brace
        exact no_brace
  · intro used rest target shape inner
    obtain ⟨token, others, nonempty, -⟩ := inner.front
    have front : front? (taken ++ used) ≠ some (.symbol .leftBrace) := by
      rw [shape, ← List.append_assoc, nonempty] at no_brace
      rw [nonempty]
      exact no_brace
    rw [Rule.after_after]
    refine settles_ahead ?_
    have whole : ∀ next, Statement next (taken ++ used ++ []) target := by
      intro next
      rw [List.append_nil]
      exact .expression inner front
    by_cases sign : front? rest = some (.symbol .equal)
    · simp only [if_pos sign]
      cases rest with
      | nil => cases sign
      | cons equal rest =>
          rw [shape, List.length_append, List.length_cons] at fits
          cases target with
          | identifier name =>
              exact settles_skip ((settles_expression below (by omega)).map fun _ _ _ value =>
                .assignment inner front (Option.some.inj sign) value)
          | _ => exact settles_fail ⟨[], _, .nil, whole _⟩
    · simp only [if_neg sign]
      exact settles_pure (whole _)

/-- Of a statement that begins with `function` the second token says whether it names the
function. -/
theorem settles_functionWord {word : Token} (here : word.terminal = .keyword .functionWord)
    {rest : List Token} (fits : (word :: rest).length ≤ bound) :
    Settles extra (fun budget => secondAhead >>= fun second =>
      if second = some .name then functionStatement budget (phrase budget)
      else assignment budget (phrase budget)) Statement (word :: rest) := by
  have inner : Expression .loosest [word, .ofSymbol .leftParen, .ofSymbol .rightParen,
      .ofSymbol .leftBrace, .ofSymbol .rightBrace] _ :=
    (Operand.primary (.function here (@FunctionTail.function [_, _] _ _ _ (.empty rfl rfl)
      (.braces rfl .none rfl)))).expression _
  have value_read : Settles (extra + 1) _ _ _ := settles_assignment below [word] (by simp [here])
    (settles_expression_uncons below inner fits) (Nat.le_of_succ_le fits)
  have function_read (target : Token) (others : List Token) (shape : rest = target :: others)
      (named : target.terminal = .name) : Settles (extra + 1 + 1) (fun budget =>
        functionTail budget (phrase budget) >>= fun value => pure (.assign target.named value))
      ((Rule.after Statement [word]).after [target]) others := by
    subst shape
    simp only [List.length_cons] at fits
    exact (settles_functionTail below (by omega)).map fun _ _ _ tail => .function here named tail
  refine settles_take (fun _ _ => rfl) (settles_either (fun budget target list named => ?_)
    (fun budget list elsewhere => ?_) function_read fun _ => value_read)
  · show (if some target.terminal = some .name then _ else _ : Parser Node) _ = _
    rw [if_pos (congrArg some named)]
    unfold functionStatement
    rw [skip_bind, bind_ok (name_here named list)]
  · show (if front? list = some .name then _ else _ : Parser Node) _ = _
    rw [if_neg elsewhere]
    rfl

theorem settles_statement (fits : tokens.length ≤ bound) :
    Settles extra (fun budget => statement budget (phrase budget)) Statement tokens := by
  have value (no_brace : front? tokens ≠ some (.symbol .leftBrace)) :
      Settles extra (fun budget => assignment budget (phrase budget)) Statement tokens :=
    settles_assignment below [] no_brace (settles_expression below fits) fits
  refine settles_ahead ?_
  cases tokens with
  | nil => exact value nofun
  | cons word rest =>
      have shorter : rest.length < bound := fits
      obtain ⟨terminal, lexeme, position⟩ := word
      cases terminal with
      | keyword keyword =>
          cases keyword with
          | printWord =>
              exact settles_skip (settles_printTail below rfl (Nat.le_of_lt shorter))
          | ifWord => exact settles_skip (settles_ifTail below rfl shorter (Nat.succ_pos _))
          | whileWord => exact settles_skip (settles_whileTail below rfl shorter (Nat.succ_pos _))
          | returnWord =>
              exact settles_skip (settles_returnTail below rfl (Nat.le_of_lt shorter))
          | functionWord => exact settles_functionWord below rfl fits
          | _ => exact value nofun
      | symbol sign =>
          cases sign with
          | leftBrace => exact (settles_block below fits).imp fun _ _ _ body => .block body
          | _ => exact value nofun
      | _ => exact value nofun

end

/-! ## All rules together -/

/-- A rule inside the knot needs one level of the budget more. -/
theorem Settles.succ {α : Type} {parser below : Nat → Parser α} {rule : Rule α}
    (settles : Settles 0 below rule tokens)
    (step : ∀ budget list, parser (budget + 1) list = below budget list) (enough : 0 < extra) :
    Settles extra parser rule tokens := by
  have settled : Settles 0 below (rule.after []) tokens := settles
  refine settled.transfer fun budget list _ fits => ?_
  cases budget with
  | zero => exact absurd (Nat.le_trans (Nat.le_add_right extra _) fits) (Nat.not_le_of_lt enough)
  | succ level =>
      refine ⟨level, ?_, step level list⟩
      rw [List.nil_append] at fits
      omega

/-- The rules settle lists of tokens of any length. -/
theorem settlesBelow (bound : Nat) : SettlesBelow bound := by
  induction bound with
  | zero => exact ⟨fun short => absurd short (Nat.not_lt_zero _),
      fun short => absurd short (Nat.not_lt_zero _)⟩
  | succ bound ih =>
      constructor
      · intro extra tokens short enough
        exact (settles_expression ih (Nat.le_of_lt_succ short)).succ (fun _ _ => rfl) enough
      · intro extra tokens short enough
        exact (settles_statement ih (Nat.le_of_lt_succ short)).succ (fun _ _ => rfl) enough

/-- A program, and the end marker behind it. -/
theorem settles_program (tokens : List Token) :
    Settles 1 program (fun next used tree => next = some .endMarker ∧ Program used tree)
      tokens := by
  have below := settlesBelow (tokens.length + 1)
  refine (settles_statements below 0 tokens (Nat.lt_succ_self _) Nat.one_pos).bind ?_ ?_
  · rintro used rest shape ⟨more, _, finishes, body⟩
    exact ⟨more, _, finishes, rfl, .program body⟩
  intro used rest body _ inner
  refine settles_ahead ?_
  have whole : Program (used ++ []) (.program body) := by
    rw [List.append_nil]
    exact .program (inner.before .endMarker)
  by_cases ends : front? rest = some .endMarker
  · simp only [if_pos ends]
    exact settles_pure ⟨ends, whole⟩
  · simp only [if_neg ends]
    exact settles_fail ⟨[], _, .nil, rfl, whole⟩

end Scriptlet.Grammar
