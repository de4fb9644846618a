/-
# Proofs.Grammar.Acceptance -- what is accepted, and where the rest goes wrong

Both halves about the parser together, for lists of tokens that end in their only end
marker.  A program is accepted exactly if its tokens nest within the bound and derive a
tree, and then the parser returns that tree, which is the only one.

A list that is not accepted is blamed on one of its tokens, and that is the first token
that no program begins with the ones up to it: the tokens before it can be finished to an
accepted program, and with it nothing can.
-/
import Scriptlet.Proofs.Grammar.Depth
import Scriptlet.Proofs.Grammar.Soundness

namespace Scriptlet.Grammar

set_option autoImplicit false

variable {tokens rest : List Token} {marker : Token} {tree : Node}

/-! ## The check for depth and the rules -/

theorem parse_of_nests (nests : Nests maxNesting tokens) :
    parse tokens = (program (tokens.length + 1) tokens).map Prod.fst := by
  unfold parse
  rw [(checkNesting_ok_iff tokens).mpr nests]
  show (program (tokens.length + 1) tokens >>= fun result => pure result.1) = _
  cases program (tokens.length + 1) tokens <;> rfl

theorem nests_of_parse (parsed : parse tokens = .ok tree) : Nests maxNesting tokens := by
  rw [← checkNesting_ok_iff]
  unfold parse at parsed
  cases checked : checkNesting tokens with
  | ok => rfl
  | error error =>
      rw [checked] at parsed
      cases parsed

theorem parse_program (nests : Nests maxNesting (tokens ++ marker :: rest))
    (ends : marker.terminal = .endMarker) (derived : Program tokens tree) :
    parse (tokens ++ marker :: rest) = .ok tree := by
  rw [parse_of_nests nests, program_taken derived ends (Nat.lt_succ_self _)]
  rfl

/-- The only end marker of a list stands at its end. -/
theorem unmarked_split (unmarked : Unmarked tokens) {used : List Token}
    (shape : tokens ++ [marker] = used ++ rest) (front : front? rest = some .endMarker) :
    used = tokens := by
  rcases List.append_eq_append_iff.mp shape with ⟨more, rfl, last⟩ | ⟨more, rfl, rfl⟩
  · cases more with
    | nil => exact List.append_nil tokens
    | cons token more =>
        obtain ⟨rfl, nothing⟩ := List.cons.inj last
        rw [(List.append_eq_nil_iff.mp nothing.symm).2] at front
        cases front
  · cases more with
    | nil => exact (List.append_nil used).symm
    | cons token more =>
        have here := unmarked token (by simp)
        exact absurd (Option.some.inj front) here

/-- What is accepted begins with a program, and an end marker stands behind that. -/
theorem derived_of_parse (parsed : parse tokens = .ok tree) :
    ∃ used rest, tokens = used ++ rest ∧ front? rest = some .endMarker ∧ Program used tree := by
  rw [parse_of_nests (nests_of_parse parsed)] at parsed
  cases settles_program tokens with
  | fails used rest error shape position begun same =>
      have failed := same (tokens.length + 1) rest rfl (by rw [← shape]; omega)
      rw [← shape] at failed
      rw [failed] at parsed
      cases parsed
  | reads used rest value shape derived same =>
      have read := same (tokens.length + 1) rest rfl (by rw [← shape]; omega)
      rw [← shape] at read
      rw [read] at parsed
      cases parsed
      exact ⟨used, rest, shape, derived.1, derived.2⟩

/-- What is accepted up to its only end marker nests within the bound and derives the tree. -/
theorem program_of_parse (unmarked : Unmarked tokens)
    (parsed : parse (tokens ++ [marker]) = .ok tree) :
    Nests maxNesting (tokens ++ [marker]) ∧ Program tokens tree := by
  obtain ⟨used, rest, shape, front, derived⟩ := derived_of_parse parsed
  rw [unmarked_split unmarked shape front] at derived
  exact ⟨nests_of_parse parsed, derived⟩

/-- Of lists of tokens that end in their only end marker the parser accepts exactly those that
nest within the bound and derive a program, and returns the only tree that they derive. -/
theorem parse_ok_iff (ends : marker.terminal = .endMarker) (unmarked : Unmarked tokens) :
    (∀ tree, parse (tokens ++ [marker]) = .ok tree
      ↔ Nests maxNesting (tokens ++ [marker]) ∧ Program tokens tree)
    ∧ ∀ tree other, Program tokens tree → Program tokens other → tree = other := by
  refine ⟨fun tree => ⟨?_, ?_⟩, ?_⟩
  · exact program_of_parse unmarked
  · rintro ⟨nests, derived⟩
    exact parse_program nests ends derived
  · intro tree other first second
    have read (tree : Node) (derived : Program tokens tree) :
        program ((tokens ++ [marker]).length + 1) (tokens ++ [marker]) = .ok (tree, [marker]) :=
      program_taken derived ends (Nat.lt_succ_self _)
    have same := (read tree first).symm.trans (read other second)
    cases same
    rfl

/-- `if (a < -1) print() else b = {"k": []};;` -/
def branchTokens : List Token :=
  [⟨.keyword .ifWord, "if", 0⟩, ⟨.symbol .leftParen, "(", 3⟩, ⟨.name, "a", 4⟩,
    ⟨.symbol .less, "<", 6⟩, ⟨.symbol .minus, "-", 8⟩, ⟨.integer 1, "1", 9⟩,
    ⟨.symbol .rightParen, ")", 10⟩, ⟨.keyword .printWord, "print", 12⟩,
    ⟨.symbol .leftParen, "(", 17⟩, ⟨.symbol .rightParen, ")", 18⟩,
    ⟨.keyword .elseWord, "else", 20⟩, ⟨.name, "b", 25⟩, ⟨.symbol .equal, "=", 27⟩,
    ⟨.symbol .leftBrace, Symbol.leftBrace.spelling, 29⟩, ⟨.string "k", "\"k\"", 30⟩,
    ⟨.symbol .colon, ":", 33⟩, ⟨.symbol .leftBracket, "[", 35⟩, ⟨.symbol .rightBracket, "]", 36⟩,
    ⟨.symbol .rightBrace, Symbol.rightBrace.spelling, 37⟩, ⟨.symbol .semicolon, ";", 38⟩,
    ⟨.symbol .semicolon, ";", 39⟩]

theorem parse_ok_iff_branch : Program branchTokens (.program [.branch
    (.binary .lessThan (.identifier ⟨"a", some 4⟩) (.unary .negate (.integer 1))) (.print none)
    (some (.assign ⟨"b", some 25⟩ (.map [("k", .list [])])))]) :=
  have accepted := @parse_ok_iff branchTokens (.endAt 40) rfl (by decide)
  ((accepted.1 _).mp rfl).2

/-! ## The token to blame -/

/-- Where the rules fail, the tokens before the blamed one can be finished to a program and
together with it they begin none. -/
theorem program_fails {error : SyntaxError} (ends : marker.terminal = .endMarker)
    (failed : program ((tokens ++ [marker]).length + 1) (tokens ++ [marker]) = .error error) :
    ∃ used blamed others, tokens ++ [marker] = used ++ blamed :: others
      ∧ blamed.position = error.position
      ∧ (∃ more tree, Mild more ∧ Program (used ++ more) tree)
      ∧ ∀ budget others, (used ++ blamed :: others).length < budget →
        program budget (used ++ blamed :: others) = .error error := by
  cases settles_program (tokens ++ [marker]) with
  | reads used rest value shape derived same =>
      have read := same ((tokens ++ [marker]).length + 1) rest rfl (by rw [← shape]; omega)
      rw [← shape, failed] at read
      cases read
  | fails used rest reported shape position begun same =>
      have equal := same ((tokens ++ [marker]).length + 1) rest rfl (by rw [← shape]; omega)
      rw [← shape, failed] at equal
      cases equal
      obtain ⟨more, tree, mild, -, derived⟩ := begun
      cases rest with
      | nil =>
          -- The end marker would be among the tokens of a program.
          cases derived with
          | program body =>
              rw [List.append_nil] at shape
              have marked := body.unmarked marker (by rw [← shape]; simp)
              exact absurd ends marked
      | cons blamed others =>
          refine ⟨used, blamed, others, shape, position.symm, ⟨more, tree, mild, derived⟩, ?_⟩
          exact fun budget others fits => same budget (blamed :: others) rfl (by omega)

/-- Positions that are all different tell where a token stands. -/
theorem position_eq_iff {used others : List Token} {blamed : Token}
    (distinct : ((used ++ blamed :: others).map Token.position).Nodup) (i : Nat) :
    (used ++ blamed :: others)[i]?.map Token.position = some blamed.position
      ↔ i = used.length := by
  have here : ((used ++ blamed :: others).map Token.position)[used.length]?
      = some blamed.position := by
    rw [List.getElem?_map, List.getElem?_append_right (Nat.le_refl _), Nat.sub_self]
    rfl
  have within : used.length < ((used ++ blamed :: others).map Token.position).length := by
    simp
  rw [← List.getElem?_map, ← here]
  constructor
  · intro same
    exact ((List.getElem?_inj within distinct).mp same.symm).symm
  · rintro rfl
    rfl

/-- An error reports the first token at which the tokens stop being the beginning of a program:
what stands before it can be finished so that it is accepted, and nothing that begins with all
tokens up to it is accepted. -/
theorem parse_error_first {error : SyntaxError} (ends : marker.terminal = .endMarker)
    (distinct : ((tokens ++ [marker]).map Token.position).Nodup)
    (nests : Nests 199 (tokens ++ [marker])) (failed : parse (tokens ++ [marker]) = .error error) :
    ∃ k, (∀ i, (tokens ++ [marker])[i]?.map Token.position = some error.position ↔ i = k)
      ∧ (∃ completion, ∀ last : Token, last.terminal = .endMarker →
        ∃ tree, parse ((tokens ++ [marker]).take k ++ completion ++ [last]) = .ok tree)
      ∧ ∀ others tree, parse ((tokens ++ [marker]).take (k + 1) ++ others) ≠ .ok tree := by
  rw [parse_of_nests (nests.mono (by decide))] at failed
  cases outcome : program ((tokens ++ [marker]).length + 1) (tokens ++ [marker]) with
  | ok result =>
      rw [outcome] at failed
      cases failed
  | error reported =>
      rw [outcome] at failed
      cases failed
      obtain ⟨used, blamed, others, shape, position, ⟨more, tree, mild, derived⟩, stuck⟩ :=
        program_fails ends outcome
      rw [shape] at distinct nests ⊢
      rw [← position]
      have before : (used ++ blamed :: others).take used.length = used := List.take_left
      have upto : (used ++ blamed :: others).take (used.length + 1) = used ++ [blamed] := by
        rw [List.take_length_add_append]
        rfl
      refine ⟨used.length, position_eq_iff distinct, ⟨more, ?_⟩, ?_⟩
      · intro last here
        have room : openBrackets used ≤ 199 :=
          Nat.le_of_add_right_le (nests used (List.prefix_append _ _))
        have finished := (nests.of_prefix.mono (Nat.le_succ 199)).mild room mild here
        rw [before]
        exact ⟨tree, parse_program finished here derived⟩
      · intro others tree parsed
        rw [upto, List.append_assoc, List.singleton_append] at parsed
        have read := parsed
        rw [parse_of_nests (nests_of_parse parsed), stuck _ _ (Nat.lt_succ_self _)] at read
        cases read

/-- `while (x) { f(1, ; }` -/
def argumentTokens : List Token :=
  [⟨.keyword .whileWord, "while", 0⟩, ⟨.symbol .leftParen, "(", 6⟩, ⟨.name, "x", 7⟩,
    ⟨.symbol .rightParen, ")", 8⟩, ⟨.symbol .leftBrace, Symbol.leftBrace.spelling, 10⟩,
    ⟨.name, "f", 12⟩, ⟨.symbol .leftParen, "(", 13⟩, ⟨.integer 1, "1", 14⟩,
    ⟨.symbol .comma, ",", 15⟩, ⟨.symbol .semicolon, ";", 17⟩,
    ⟨.symbol .rightBrace, Symbol.rightBrace.spelling, 19⟩]

/-- The semicolon in place of an argument is blamed. -/
theorem parse_error_first_argument :
    (∃ completion, ∀ last : Token, last.terminal = .endMarker →
      ∃ tree, parse (argumentTokens.take 9 ++ completion ++ [last]) = .ok tree)
    ∧ ∀ others tree, parse (argumentTokens.take 10 ++ others) ≠ .ok tree := by
  obtain ⟨k, at_k, viable, stuck⟩ := @parse_error_first argumentTokens (.endAt 20)
    (.unexpected .expression (.lexeme ";") 17) rfl (by decide) (by decide) rfl
  have place : 9 = k := (at_k 9).mp rfl
  subst place
  exact ⟨viable, stuck⟩

end Scriptlet.Grammar
