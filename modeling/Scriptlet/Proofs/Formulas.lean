/-
# Proofs.Formulas -- expressions of integers as they are written

A `Formula` is an expression of integers with its parentheses: numerals, the four operations and
signs.  It is well written if parentheses stand at least where the usual precedence asks for them, a
sign binding tightest, then products and quotients, then sums and differences, all of which lean to
the left; and if it keeps to the bounds on chains and on nesting.

A text that spells a formula has its lexemes, with any blanks before, between and behind them.
There need be none, as of two lexemes that stand side by side in a formula one is a symbol that does
not go on with anything (`Formula.meets_tokens`).  The text of a well-written formula is read as its
tree (`read_formula`), which the grammar finds by levels of operators (`Formula.placed`).
-/
import Mathlib.Data.List.Chain
import Scriptlet.Proofs.Grammar.Acceptance
import Scriptlet.Proofs.Grammar.Joining
import Scriptlet.Proofs.Grammar.Render
import Scriptlet.Proofs.Sessions
import Scriptlet.Proofs.Token.Phrases

namespace Scriptlet

set_option autoImplicit false

open Grammar

/-! ## Numerals and operations -/

/-- Decimal digits of an integer of the language, perhaps with zeros in front of them. -/
structure Numeral where
  digits : List Char
  nonempty : digits ≠ []
  decimal : digits.all Char.isDigit = true
  fits : (Nat.ofDigitChars 10 digits 0 : Int) ≤ Integer.greatest

namespace Numeral

def value (numeral : Numeral) : Nat := Nat.ofDigitChars 10 numeral.digits 0

def word (numeral : Numeral) : Int64 := Int64.ofInt numeral.value

def token (numeral : Numeral) : Token :=
  ⟨.integer numeral.word, String.ofList numeral.digits, 0⟩

theorem ofExact?_value (numeral : Numeral) :
    Integer.ofExact? numeral.value = some numeral.word := by
  refine if_pos ⟨?_, numeral.fits⟩
  simp only [Integer.least]
  omega

theorem toInt_word (numeral : Numeral) : numeral.word.toInt = numeral.value :=
  Integer.toInt_of_ofExact? numeral.ofExact?_value

theorem lexed (numeral : Numeral) : numeral.token.Lexed :=
  lexed_numeral numeral.nonempty (List.all_eq_true.mp numeral.decimal) numeral.ofExact?_value

end Numeral

/-- The four operations of arithmetic. -/
inductive Operation where
  | sum | difference | product | quotient
  deriving DecidableEq

namespace Operation

def operator : Operation → Operator
  | sum => .plus
  | difference => .minus
  | product => .times
  | quotient => .divide

/-- How tightly an operation binds. -/
def tightness : Operation → Nat
  | sum | difference => 1
  | product | quotient => 2

theorem tightness_bounds (operation : Operation) :
    1 ≤ operation.tightness ∧ operation.tightness ≤ 2 := by
  cases operation <;> decide

variable {operation other : Operation}

theorem level_eq (same : other.tightness = operation.tightness) :
    other.operator.level = operation.operator.level := by
  cases operation <;> cases other <;> first | rfl | cases same

theorem level_below (looser : other.tightness < operation.tightness) :
    other.operator.level.below = .level operation.operator.level := by
  cases operation <;> cases other <;> first | rfl | exact absurd looser (by decide)

theorem level_ne (operation : Operation) : operation.operator.level ≠ .comparison := by
  cases operation <;> decide

end Operation

/-! ## Formulas -/

/-- An expression of integers, with its parentheses. -/
inductive Formula where
  | numeral (numeral : Numeral)
  | parens (inner : Formula)
  | negative (operand : Formula)
  | binary (operation : Operation) (left right : Formula)

namespace Formula

/-- The formula and all formulas in it. -/
def parts : Formula → List Formula
  | numeral n => [numeral n]
  | parens inner => parens inner :: inner.parts
  | negative operand => negative operand :: operand.parts
  | binary operation left right => binary operation left right :: (left.parts ++ right.parts)

/-- How tightly the operation that is carried out last binds: a sign tightest of all. -/
def tightness : Formula → Nat
  | binary operation _ _ => operation.tightness
  | _ => 3

/-- Other than in parentheses, no operation stands behind a sign, nothing that binds more loosely
stands beside an operation, and nothing that binds as tightly stands on its right. -/
def Bracketed : Formula → Prop
  | negative operand => operand.tightness = 3
  | binary operation left right =>
      operation.tightness ≤ left.tightness ∧ operation.tightness < right.tightness
  | _ => True

/-- The operands of operations of one tightness that stand side by side at the front. -/
def operands (tightness : Nat) : Formula → Nat
  | binary operation left _ =>
      if operation.tightness = tightness then left.operands tightness + 1 else 1
  | _ => 1

/-- The operations of one tightness that stand side by side are not too many. -/
def ChainFits (formula : Formula) : Prop := formula.operands formula.tightness ≤ maxNesting

/-- The lexemes that write a formula. -/
def tokens : Formula → List Token
  | numeral n => [n.token]
  | parens inner => inParens inner.tokens
  | negative operand => .ofSymbol .minus :: operand.tokens
  | binary operation left right =>
      left.tokens ++ .ofSymbol operation.operator.symbol :: right.tokens

/-- A formula that can be read. -/
structure WellWritten (formula : Formula) : Prop where
  bracketed : ∀ part ∈ formula.parts, part.Bracketed
  chains : ∀ part ∈ formula.parts, part.ChainFits
  nests : Nests maxNesting formula.tokens

/-- The text has the lexemes of the formula, each behind a gap, and a gap at the end; all gaps are
blank, and may be empty. -/
def Spells (formula : Formula) (text : String) : Prop :=
  ∃ pieces last, text = spread pieces last ∧ pieces.map Prod.snd = formula.tokens
    ∧ (∀ piece ∈ pieces, Blanks piece.1.toList) ∧ Blanks last.toList

/-- The tree of a formula, in which parentheses leave no trace. -/
def node : Formula → Node
  | numeral n => .integer n.word
  | parens inner => inner.node
  | negative operand => .unary .negate operand.node
  | binary operation left right => .binary operation.operator left.node right.node

instance : DecidablePred Bracketed := fun formula =>
  match formula with
  | negative operand => inferInstanceAs (Decidable (operand.tightness = 3))
  | binary operation left right => inferInstanceAs (Decidable
      (operation.tightness ≤ left.tightness ∧ operation.tightness < right.tightness))
  | numeral _ | parens _ => inferInstanceAs (Decidable True)

instance : DecidablePred ChainFits := fun formula =>
  inferInstanceAs (Decidable (formula.operands formula.tightness ≤ maxNesting))

variable {formula : Formula}

theorem mem_parts_self (formula : Formula) : formula ∈ formula.parts := by
  cases formula <;> exact List.mem_cons_self

/-! ### Chains -/

theorem tightness_bounds (formula : Formula) :
    1 ≤ formula.tightness ∧ formula.tightness ≤ 3 := by
  cases formula with
  | binary operation =>
      have bounds := operation.tightness_bounds
      exact ⟨bounds.1, Nat.le_succ_of_le bounds.2⟩
  | _ => exact ⟨(by decide : 1 ≤ 3), Nat.le_refl 3⟩

theorem operands_of_ne {tightness : Nat} (other : formula.tightness ≠ tightness) :
    formula.operands tightness = 1 := by
  cases formula with
  | binary operation left right => exact if_neg other
  | _ => rfl

theorem operands_le (fits : formula.ChainFits) (tightness : Nat) :
    formula.operands tightness ≤ maxNesting := by
  by_cases same : formula.tightness = tightness
  · exact same ▸ fits
  · rw [operands_of_ne same]
    decide

end Formula

/-! ## The tree of a formula -/

namespace Formula

variable {formula : Formula} {tokens : List Token}

/-- The places of a formula in the grammar: behind a sign if it binds as tightly, and among the
operands of all operations that bind as tightly at most. -/
structure Placed (formula : Formula) (tokens : List Token) : Prop where
  signed : formula.tightness = 3 → Expression .signed tokens formula.node
  chain : ∀ operation : Operation, operation.tightness ≤ formula.tightness →
    Chain operation.operator.level (formula.operands operation.tightness) tokens formula.node

namespace Placed

theorem level (placed : formula.Placed tokens) (fits : formula.ChainFits) {operation : Operation}
    (tight : operation.tightness ≤ formula.tightness) :
    Expression (.level operation.operator.level) tokens formula.node :=
  .chain operation.level_ne (placed.chain operation tight) (operands_le fits _)

/-- On the right side of an operation. -/
theorem right (placed : formula.Placed tokens) (fits : formula.ChainFits) {operation : Operation}
    (tight : operation.tightness < formula.tightness) :
    Expression operation.operator.level.below tokens formula.node := by
  cases operation with
  | sum | difference => exact @level _ _ placed fits .product tight
  | product | quotient =>
      exact placed.signed (Nat.le_antisymm formula.tightness_bounds.2 tight)

theorem loosest (placed : formula.Placed tokens) (fits : formula.ChainFits) :
    Expression .loosest tokens formula.node := by
  have sums : Expression (.level .sum) tokens formula.node :=
    @level _ _ placed fits .sum formula.tightness_bounds.1
  exact sums.loosen (by decide)

theorem of_signed (tight : formula.tightness = 3)
    (signed : Expression .signed tokens formula.node) : formula.Placed tokens := by
  refine ⟨fun _ => signed, fun operation _ => ?_⟩
  have looser := operation.tightness_bounds.2
  have other : formula.tightness ≠ operation.tightness := by omega
  rw [operands_of_ne other]
  exact .one (signed.loosen (Place.rank_le _))

theorem of_chain {operation : Operation} (tight : formula.tightness = operation.tightness)
    (fits : formula.ChainFits) (chain : Chain operation.operator.level
      (formula.operands operation.tightness) tokens formula.node) : formula.Placed tokens := by
  refine ⟨fun signed => ?_, fun other looser => ?_⟩
  · have most := operation.tightness_bounds.2
    omega
  · rw [tight] at looser
    rcases Nat.eq_or_lt_of_le looser with same | looser
    · rw [Operation.level_eq same, same]
      exact chain
    · rw [operands_of_ne (by omega)]
      refine .one ?_
      rw [Operation.level_below looser]
      exact .chain operation.level_ne chain (operands_le fits _)

end Placed

/-- **The lexemes of a formula derive its tree**, in all places that it can stand at; what counts of
the lexemes are their terminals.  By induction on the formula. -/
theorem placed (bracketed : ∀ part ∈ formula.parts, part.Bracketed)
    (chains : ∀ part ∈ formula.parts, part.ChainFits)
    (same : tokens.map Token.terminal = formula.tokens.map Token.terminal) :
    formula.Placed tokens := by
  induction formula generalizing tokens with
  | numeral n =>
      obtain ⟨token, rfl, terminal⟩ := List.map_eq_singleton_iff.mp same
      exact .of_signed rfl (.unsigned (.primary (.integer terminal)))
  | parens inner ih =>
      simp only [parts, List.forall_mem_cons] at bracketed chains
      obtain ⟨first, rest, rfl, opening, behind⟩ := List.map_eq_cons_iff.mp same
      rw [List.map_append] at behind
      obtain ⟨middle, ends, rfl, within, closes⟩ := List.map_eq_append_iff.mp behind
      obtain ⟨last, rfl, closing⟩ := List.map_eq_singleton_iff.mp closes
      have fits := chains.2 inner inner.mem_parts_self
      have loosest := (ih bracketed.2 chains.2 within).loosest fits
      exact .of_signed rfl (.unsigned (.primary (.parenthesized (.parens opening loosest closing))))
  | negative operand ih =>
      simp only [parts, List.forall_mem_cons] at bracketed chains
      obtain ⟨sign, rest, rfl, minus, behind⟩ := List.map_eq_cons_iff.mp same
      have signed := (ih bracketed.2 chains.2 behind).signed bracketed.1
      have negates : signOperator? sign.terminal = some .negate := by
        rw [minus]
        rfl
      exact .of_signed rfl (.sign negates signed)
  | binary operation left right first second =>
      simp only [parts, List.forall_mem_cons, List.forall_mem_append] at bracketed chains
      obtain ⟨⟨left_tight, right_tight⟩, left_bracketed, right_bracketed⟩ := bracketed
      obtain ⟨fits, left_chains, right_chains⟩ := chains
      rw [Formula.tokens, List.map_append] at same
      obtain ⟨before, others, rfl, lefts, behind⟩ := List.map_eq_append_iff.mp same
      obtain ⟨sign, after, rfl, symbol, rights⟩ := List.map_eq_cons_iff.mp behind
      have named : operation.operator.level.operator? sign.terminal = some operation.operator := by
        rw [symbol]
        cases operation <;> rfl
      have chain := (first left_bracketed left_chains lefts).chain operation left_tight
      have operand := (second right_bracketed right_chains rights).right
        (right_chains right right.mem_parts_self) right_tight
      refine .of_chain rfl fits ?_
      rw [operands, if_pos rfl]
      exact .more chain named operand

end Formula

/-! ## Lexemes with blanks between them -/

/-- The symbols of arithmetic.  None of them goes on with another character. -/
def arithmeticSymbols : List Symbol := [.leftParen, .rightParen, .plus, .minus, .star, .slash]

namespace Token

/-- The token of a symbol of arithmetic. -/
def IsArithmetic (token : Token) : Prop := ∃ sign ∈ arithmeticSymbols, token = .ofSymbol sign

variable {token : Token}

theorem IsArithmetic.standsBefore (arithmetic : token.IsArithmetic) (rest : List Char) :
    token.StandsBefore rest := by
  obtain ⟨sign, among, rfl⟩ := arithmetic
  have alone (rest : List Char) : firstMatch? (sign.spelling.toList ++ rest)
      = some (.symbol sign, sign.spelling.toList, rest) := by
    simp only [arithmeticSymbols, List.mem_cons, List.not_mem_nil, or_false] at among
    rcases among with rfl | rfl | rfl | rfl | rfl | rfl <;> rfl
  intro position others scanned
  rw [← byteSize_toList] at scanned
  exact (scans_sign sign alone position rest _ trivial).mpr ⟨others, rfl, scanned⟩

theorem IsArithmetic.parted (arithmetic : token.IsArithmetic) (rest : List Char) :
    Pattern.Parted (token.lexeme.toList ++ rest) := by
  obtain ⟨sign, among, rfl⟩ := arithmetic
  simp only [arithmeticSymbols, List.mem_cons, List.not_mem_nil, or_false] at among
  rcases among with rfl | rfl | rfl | rfl | rfl | rfl <;> exact Pattern.parted_cons.mpr rfl

/-- Two tokens of which one is a symbol of arithmetic may stand side by side without a blank. -/
def Meets (first second : Token) : Prop := first.IsArithmetic ∨ second.IsArithmetic

end Token

section

variable {pieces : List (String × Token)} {last : String}
  (blanks : ∀ piece ∈ pieces, Blanks piece.1.toList) (ends : Blanks last.toList)
include blanks ends

theorem parted_spread (front : ∀ token ∈ (pieces.map Prod.snd).head?, token.IsArithmetic) :
    Pattern.Parted (spread pieces last).toList := by
  cases pieces with
  | nil =>
      have parted := ends.parted Pattern.parted_nil
      rwa [List.append_nil] at parted
  | cons piece pieces =>
      obtain ⟨gap, token⟩ := piece
      rw [spread, String.toList_append, String.toList_append, List.append_assoc]
      exact (blanks _ List.mem_cons_self).parted ((front _ rfl).parted _)

/-- With any blanks between them, lexemes are taken for their tokens if they may stand side by side
where they do. -/
theorem separate_of_meets (each : ∀ piece ∈ pieces, piece.2.IsArithmetic ∨ piece.2.Lexed)
    (meets : (pieces.map Prod.snd).IsChain Token.Meets) : Separate pieces last := by
  induction pieces with
  | nil => exact ends
  | cons piece pieces ih =>
      rw [List.forall_mem_cons] at blanks each
      rw [List.map_cons, List.isChain_cons] at meets
      refine ⟨blanks.1, ?_, ih blanks.2 each.2 meets.2⟩
      by_cases arithmetic : piece.2.IsArithmetic
      · exact arithmetic.standsBefore _
      · have front : ∀ token ∈ (pieces.map Prod.snd).head?, token.IsArithmetic :=
          fun token first => (meets.1 token first).resolve_left arithmetic
        exact (each.1.resolve_left arithmetic).standsBefore (parted_spread blanks.2 ends front)

end

namespace Formula

variable (formula : Formula)

/-- The lexemes of a formula are numerals and symbols of arithmetic. -/
theorem mem_tokens : ∀ token ∈ formula.tokens,
    token.IsArithmetic ∨ ∃ n : Numeral, token = n.token := by
  induction formula with
  | numeral n => exact List.forall_mem_singleton.mpr (.inr ⟨n, rfl⟩)
  | parens inner ih =>
      simp only [tokens, bracketed, List.forall_mem_cons, List.forall_mem_append]
      exact ⟨.inl ⟨_, by decide, rfl⟩, ih, .inl ⟨_, by decide, rfl⟩, nofun⟩
  | negative operand ih =>
      exact List.forall_mem_cons.mpr ⟨.inl ⟨_, by decide, rfl⟩, ih⟩
  | binary operation left right first second =>
      simp only [tokens, List.forall_mem_cons, List.forall_mem_append]
      exact ⟨first, .inl ⟨_, by cases operation <;> decide, rfl⟩, second⟩

/-- A formula does not begin as a block does. -/
theorem front?_ne_leftBrace {tokens : List Token}
    (same : tokens.map Token.terminal = formula.tokens.map Token.terminal) :
    front? tokens ≠ some (.symbol .leftBrace) := by
  intro brace
  have first : Terminal.symbol .leftBrace ∈ formula.tokens.map Token.terminal := by
    rw [← same]
    rw [front?, ← List.head?_map] at brace
    exact List.mem_of_mem_head? brace
  obtain ⟨token, inside, terminal⟩ := List.mem_map.mp first
  rcases formula.mem_tokens token inside with ⟨sign, among, rfl⟩ | ⟨n, rfl⟩
  · obtain rfl := Terminal.symbol.inj terminal
    exact absurd among (by decide)
  · cases terminal

/-- No two numerals stand side by side in a formula. -/
theorem meets_tokens : formula.tokens.IsChain Token.Meets := by
  have symbol {sign : Symbol} (among : sign ∈ arithmeticSymbols) :
      (Token.ofSymbol sign).IsArithmetic := ⟨sign, among, rfl⟩
  induction formula with
  | numeral n => exact .singleton _
  | parens inner ih =>
      refine List.isChain_cons.mpr ⟨fun _ _ => .inl (symbol (by decide)), ?_⟩
      refine List.isChain_append.mpr ⟨ih, .singleton _, fun _ _ => ?_⟩
      rintro _ ⟨⟩
      exact .inr (symbol (by decide))
  | negative operand ih =>
      exact List.isChain_cons.mpr ⟨fun _ _ => .inl (symbol (by decide)), ih⟩
  | binary operation left right first second =>
      have arithmetic : (Token.ofSymbol operation.operator.symbol).IsArithmetic :=
        symbol (by cases operation <;> decide)
      have behind := List.isChain_cons.mpr ⟨fun _ _ => .inl arithmetic, second⟩
      refine List.isChain_append.mpr ⟨first, behind, fun _ _ => ?_⟩
      rintro _ ⟨⟩
      exact .inr arithmetic

end Formula

/-! ## Reading -/

namespace Session

/-- **Formulas are read as their trees**, whatever blanks stand around the lexemes. -/
theorem read_formula {formula : Formula} {text : String} (written : formula.WellWritten)
    (spells : formula.Spells text) : read text = .ok (.program [formula.node]) := by
  obtain ⟨pieces, last, rfl, lexemes, blanks, ends⟩ := spells
  have separate : Separate pieces last := by
    refine separate_of_meets blanks ends (fun piece among => ?_) ?_
    · have inside : piece.2 ∈ formula.tokens := lexemes ▸ List.mem_map_of_mem among
      rcases formula.mem_tokens _ inside with arithmetic | ⟨n, same⟩
      · exact .inl arithmetic
      · exact .inr (same ▸ n.lexed)
    · rw [lexemes]
      exact formula.meets_tokens
  have same := map_terminal_placed 0 pieces
  rw [lexemes] at same
  refine read_ok_iff.mpr ⟨_, tokenize_of_separate separate, parse_program ?_ rfl ?_⟩
  · have nests := nests_congr same written.nests
    have whole := nests (placed 0 pieces) (List.prefix_refl _)
    exact nests.concat (Nat.le_of_add_right_le whole)
  · have derived := (Formula.placed written.bracketed written.chains same).loosest
      (written.chains formula formula.mem_parts_self)
    exact .program (.last (.expression derived (formula.front?_ne_leftBrace same)))

end Session

end Scriptlet
