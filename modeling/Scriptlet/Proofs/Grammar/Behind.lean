/-
# Proofs.Grammar.Behind -- what stands behind the end marker

No rule takes an end marker or looks behind one.  On tokens up to an end marker each rule does the
same whatever comes further on (`Halts`): it reads some of the tokens, or it fails at one of them or
at the marker, so that there is always a token to blame.  This follows from what is known of the
rules.  They settle what they do by the tokens that they read and the one ahead (`Settles`), no
phrase has an end marker in it, and an error is about a token that is there (`Agree`).

So tokens behind the end marker are not read, apart from the check for depth, and a program ends at
the marker (`parse_behind_marker`).
-/
import Scriptlet.Proofs.Grammar.Origins

namespace Scriptlet.Grammar

set_option autoImplicit false

variable {α β : Type} {tokens used rest : List Token} {marker : Token}

/-- With a budget for all tokens, a parser reads some of those before the marker, or it fails at one
of them or at the marker, and it does so whatever stands behind the marker. -/
inductive Halts (parser : Nat → Parser α) (tokens : List Token) (marker : Token) : Prop where
  | reads (used left : List Token) (value : α) : tokens = used ++ left →
      (∀ budget rest, (tokens ++ marker :: rest).length < budget →
        parser budget (tokens ++ marker :: rest) = .ok (value, left ++ marker :: rest)) →
      Halts parser tokens marker
  | fails (used left : List Token) (expected : Expected) : tokens = used ++ left →
      (∀ budget rest, (tokens ++ marker :: rest).length < budget →
        parser budget (tokens ++ marker :: rest)
          = .error (.ofRest expected (left ++ [marker]))) →
      Halts parser tokens marker

/-! ## Where a parser stops -/

/-- Tokens without an end marker that are taken are taken from those before the marker. -/
theorem split_before_marker (unmarked : Unmarked used) (ends : marker.terminal = .endMarker)
    (shape : tokens ++ [marker] = used ++ rest) :
    ∃ left, tokens = used ++ left ∧ rest = left ++ [marker] := by
  rcases List.append_eq_append_iff.mp shape with ⟨more, whole, last⟩ | ⟨left, before, behind⟩
  · cases more with
    | nil => exact ⟨[], by rw [whole, List.append_nil, List.append_nil], last.symm⟩
    | cons token more =>
        obtain ⟨rfl, -⟩ := List.cons.inj last
        exact absurd ends (unmarked marker (by simp [whole]))
  · exact ⟨left, before, behind⟩

/-- An error is about a token that is there. -/
theorem Agree.blamed_on {results : α → β → Prop}
    {outcome : Except SyntaxError (α × List Token)} {outcome' : Except SyntaxError (β × List Token)}
    (agree : Agree results tokens tokens outcome outcome') {error : SyntaxError}
    (failed : outcome = .error error) :
    ∃ expected token more, (token :: more) <:+ tokens
      ∧ error = .ofRest expected (token :: more) := by
  cases agree with
  | read => cases failed
  | blamed expected left =>
      cases failed
      obtain ⟨abreast, place⟩ := left
      have suffix := place.map Prod.fst
      rw [List.map_fst_zip (Nat.le_refl _)] at suffix
      cases abreast with
      | marker | token => exact ⟨expected, _, _, suffix, rfl⟩

/-- A parser that settles what it does, and takes no end marker, halts before one. -/
theorem Settles.halts {parser : Nat → Parser α} {rule : Rule α} {results : α → α → Prop}
    (settles : Settles 1 parser rule (tokens ++ [marker])) (ends : marker.terminal = .endMarker)
    (plain : ∀ next used value, rule next used value → Unmarked used)
    (uniform : ∀ budget, Uniform results (parser budget) (parser budget)) :
    Halts parser tokens marker := by
  have ahead (left rest : List Token) :
      (left ++ marker :: rest).head? = (left ++ [marker]).head? :=
    head?_append_congr (show (marker :: rest).head? = [marker].head? from rfl) left
  cases settles with
  | reads used rest value shape derived same =>
      obtain ⟨left, rfl, rfl⟩ := split_before_marker (plain _ _ _ derived) ends shape
      refine .reads used left value rfl fun budget rest fits => ?_
      rw [List.append_assoc] at fits ⊢
      exact same budget _ (ahead left rest) (by omega)
  | fails used rest error shape position begun same =>
      obtain ⟨more, value, -, derived⟩ := begun
      have unmarked : Unmarked used := (unmarked_append.mp (plain _ _ _ derived)).1
      obtain ⟨left, rfl, rfl⟩ := split_before_marker unmarked ends shape
      have failed (budget : Nat) (rest : List Token)
          (fits : (used ++ left ++ marker :: rest).length < budget) :
          parser budget (used ++ left ++ marker :: rest) = .error error := by
        rw [List.append_assoc] at fits ⊢
        exact same budget _ (ahead left rest) (by omega)
      obtain ⟨expected, token, more, place, rfl⟩ :=
        (uniform _ _ _ (.refl ends)).blamed_on (failed _ [] (Nat.lt_succ_self _))
      obtain none | ⟨others, shape, before, whole⟩ := List.suffix_concat_iff.mp place
      · cases none
      · exact .fails before others expected whole.symm (shape ▸ failed)

/-! ## The rules -/

theorem halts_phrase (ends : marker.terminal = .endMarker) (p : Phrase) :
    Halts (phrase · p) tokens marker := by
  have below := settlesBelow ((tokens ++ [marker]).length + 1)
  cases p with
  | expression =>
      exact (below.expression (Nat.lt_succ_self _) Nat.one_pos).halts ends
        (fun _ _ _ derived => derived.unmarked) fun budget => uniform_phrase budget .expression
  | statement =>
      exact (below.statement (Nat.lt_succ_self _) Nat.one_pos).halts ends
        (fun _ _ _ derived => derived.unmarked) fun budget => uniform_phrase budget .statement

theorem halts_program (ends : marker.terminal = .endMarker) : Halts program tokens marker := by
  refine (settles_program _).halts ends ?_ uniform_program
  rintro _ _ _ ⟨-, body⟩
  cases body with
  | program body => exact body.unmarked

theorem parse_of_program {result : Except SyntaxError (Node × List Token)}
    (checked : checkNesting tokens = .ok ())
    (ran : program (tokens.length + 1) tokens = result) : parse tokens = result.map Prod.fst := by
  rw [parse_of_nests ((checkNesting_ok_iff tokens).mp checked), ran]

/-- **No rule takes the end marker.**  If tokens with an end marker among them nest within the
bound, then they are parsed as those up to the first end marker are; an error is about one of these
tokens; and if there is a program it ends at the marker, so that it is written by the tokens before
it.  Expressions and statements, which all other rules are parts of, halt there as well. -/
theorem parse_behind_marker (unmarked : Unmarked tokens) (ends : marker.terminal = .endMarker)
    (checked : checkNesting (tokens ++ marker :: rest) = .ok ()) :
    parse (tokens ++ marker :: rest) = parse (tokens ++ [marker])
    ∧ (∀ error, parse (tokens ++ marker :: rest) = .error error →
        ∃ used left expected, tokens = used ++ left
          ∧ error = .ofRest expected (left ++ [marker]))
    ∧ (∀ tree, parse (tokens ++ marker :: rest) = .ok tree →
        program ((tokens ++ marker :: rest).length + 1) (tokens ++ marker :: rest)
          = .ok (tree, marker :: rest))
    ∧ ∀ p, Halts (phrase · p) tokens marker := by
  have before : checkNesting (tokens ++ [marker]) = .ok () := by
    rw [checkNesting_ok_iff] at checked ⊢
    rw [List.append_cons] at checked
    exact checked.of_prefix
  have same : parse (tokens ++ marker :: rest) = parse (tokens ++ [marker]) ∧
      ∀ error, parse (tokens ++ marker :: rest) = .error error →
        ∃ used left expected, tokens = used ++ left
          ∧ error = .ofRest expected (left ++ [marker]) := by
    cases @halts_program tokens marker ends with
    | reads used left tree _ read =>
        rw [parse_of_program checked (read _ rest (Nat.lt_succ_self _)),
          parse_of_program before (read _ [] (Nat.lt_succ_self _))]
        exact ⟨rfl, fun error failed => by cases failed⟩
    | fails used left expected shape failed =>
        rw [parse_of_program checked (failed _ rest (Nat.lt_succ_self _)),
          parse_of_program before (failed _ [] (Nat.lt_succ_self _))]
        refine ⟨rfl, fun error blamed => ⟨used, left, expected, shape, ?_⟩⟩
        cases blamed
        rfl
  refine ⟨same.1, same.2, fun tree parsed => ?_, halts_phrase ends⟩
  rw [same.1] at parsed
  exact program_taken (program_of_parse unmarked parsed).2 ends (Nat.lt_succ_self _)

/-- A call that is not closed before the end marker is not closed behind it, and one that is closed
there is all that is read. -/
theorem parse_behind_marker_call :
    let tokens : List Token := [⟨.name, "f", 0⟩, ⟨.symbol .leftParen, "(", 1⟩]
    let call : List Token := tokens ++ [⟨.symbol .rightParen, ")", 2⟩]
    let marker : Token := .endAt 2
    let rest : List Token := [⟨.symbol .rightParen, ")", 3⟩, .endAt 4]
    let node : Node := .program [.call (.identifier ⟨"f", some 0⟩) []]
    marker.terminal = .endMarker
    ∧ (Unmarked tokens ∧ checkNesting (tokens ++ marker :: rest) = .ok ()
      ∧ parse (tokens ++ marker :: rest) = .error (.unexpected .expression .endOfInput 2))
    ∧ Unmarked call ∧ checkNesting (call ++ marker :: rest) = .ok ()
      ∧ parse (call ++ marker :: rest) = .ok node
      ∧ program 7 (call ++ marker :: rest) = .ok (node, marker :: rest) := by
  intro tokens call marker rest node
  have unmarked : Unmarked tokens := by decide
  have checked : checkNesting (tokens ++ marker :: rest) = .ok () := rfl
  have unmarked' : Unmarked call := by decide
  have checked' : checkNesting (call ++ marker :: rest) = .ok () := rfl
  obtain ⟨same, -⟩ := parse_behind_marker unmarked rfl checked
  obtain ⟨same', -, ended, -⟩ := parse_behind_marker unmarked' rfl checked'
  have parsed : parse (call ++ marker :: rest) = .ok node := same'.trans rfl
  exact ⟨rfl, ⟨unmarked, checked, same.trans rfl⟩, unmarked', checked', parsed,
    ended node parsed⟩

end Scriptlet.Grammar
