/-
# Proofs.Grammar.Settling -- what a parser settles before it goes on

`Settles` says of a parser and some tokens all that soundness and the place of an error
need: it takes off the front tokens that write a phrase of its rule, or it fails right
behind tokens that begin such a phrase; and which of the two it does depends on these
tokens and the one behind them only, whatever stands further on and however large the
budget is beyond what these tokens need.

The predicate is closed under the ways in which rules are put together, one lemma for each
(`Settles.bind`, `settles_symbol`, ...), so a rule is gone through in the order in which
it is written.  On the way `Rule.after` says what is left to be read of it.
-/
import Scriptlet.Proofs.Grammar.Fronts
import Scriptlet.Proofs.Grammar.Spelled
import Scriptlet.Proofs.Grammar.Steps

namespace Scriptlet.Grammar

open Scriptlet.Parser

set_option autoImplicit false

/-! ## Phrases and their beginnings -/

/-- Which tokens write which value, if the given terminal stands directly after them. -/
abbrev Rule (α : Type) := Option Terminal → List Token → α → Prop

/-- What is left of a rule when some tokens have been taken. -/
def Rule.after {α : Type} (rule : Rule α) (taken : List Token) : Rule α :=
  fun next more value => rule next (taken ++ more) value

/-- Mild tokens finish these ones to a phrase, at least for the end of a program. -/
def Begun {α : Type} (rule : Rule α) (tokens : List Token) : Prop :=
  ∃ more value, Mild more ∧ rule (some .endMarker) (tokens ++ more) value

/-- The position that an error at the front of some tokens reports. -/
def positionAhead : List Token → Nat
  | [] => 0
  | token :: _ => token.position

/-- A parser that needs a budget of `extra` beyond the number of tokens either reads a phrase
off their front or fails where a phrase it has begun cannot go on. -/
inductive Settles {α : Type} (extra : Nat) (parser : Nat → Parser α) (rule : Rule α)
    (tokens : List Token) : Prop where
  | reads (used rest : List Token) (value : α) :
      tokens = used ++ rest → rule (front? rest) used value →
      (∀ budget other, other.head? = rest.head? → extra + (used ++ other).length ≤ budget →
        parser budget (used ++ other) = .ok (value, other)) →
      Settles extra parser rule tokens
  | fails (used rest : List Token) (error : SyntaxError) :
      tokens = used ++ rest → error.position = positionAhead rest → Begun rule used →
      (∀ budget other, other.head? = rest.head? → extra + (used ++ other).length ≤ budget →
        parser budget (used ++ other) = .error error) →
      Settles extra parser rule tokens

section

variable {α β : Type} {extra : Nat} {tokens rest : List Token} {rule : Rule α}

theorem head?_append_congr {other : List Token} (same : other.head? = rest.head?)
    (used : List Token) : (used ++ other).head? = (used ++ rest).head? := by
  cases used with
  | nil => exact same
  | cons token used => rfl

theorem front?_congr {other : List Token} (same : other.head? = rest.head?) :
    front? other = front? rest := by
  rw [front?, same, front?]

theorem Rule.after_after (rule : Rule α) (first second : List Token) :
    (rule.after first).after second = rule.after (first ++ second) := by
  funext next more value
  simp only [Rule.after, List.append_assoc]

theorem Begun.of_after {used more : List Token} (begun : Begun (rule.after used) more) :
    Begun rule (used ++ more) := by
  obtain ⟨others, value, mild, derived⟩ := begun
  refine ⟨others, value, mild, ?_⟩
  rw [List.append_assoc]
  exact derived

/-- Tokens that begin a piece begin what can be finished when the piece is. -/
theorem Begun.then {piece : Rule β} (begun : Begun piece tokens) (last : List Token)
    (mild : Mild last)
    (makes : ∀ phrase value, piece (some .endMarker) phrase value →
      ∃ result, rule (some .endMarker) (phrase ++ last) result) : Begun rule tokens := by
  obtain ⟨more, value, finishes, derived⟩ := begun
  obtain ⟨result, made⟩ := makes _ _ derived
  refine ⟨more ++ last, result, finishes.append mild, ?_⟩
  rw [← List.append_assoc]
  exact made

/-! ## Sequences -/

/-- A parser that takes some tokens and then does what another one does, perhaps with less
budget, settles what is before that one's tokens. -/
theorem Settles.transfer {larger : Nat} {parser other : Nat → Parser α} {taken : List Token}
    (settles : Settles extra parser (rule.after taken) rest)
    (same : ∀ budget list, list.head? = rest.head? → larger + (taken ++ list).length ≤ budget →
      ∃ smaller, extra + list.length ≤ smaller
        ∧ other budget (taken ++ list) = parser smaller list) :
    Settles larger other rule (taken ++ rest) := by
  cases settles with
  | reads used left value shape derived settled =>
      refine .reads (taken ++ used) left value (by rw [shape, List.append_assoc]) derived
        fun budget list heads fits => ?_
      have front : (used ++ list).head? = rest.head? := by
        rw [shape]
        exact head?_append_congr heads used
      rw [List.append_assoc] at fits ⊢
      obtain ⟨smaller, enough, equal⟩ := same budget (used ++ list) front fits
      rw [equal]
      exact settled smaller list heads enough
  | fails used left error shape position begun settled =>
      refine .fails (taken ++ used) left error (by rw [shape, List.append_assoc]) position
        begun.of_after fun budget list heads fits => ?_
      have front : (used ++ list).head? = rest.head? := by
        rw [shape]
        exact head?_append_congr heads used
      rw [List.append_assoc] at fits ⊢
      obtain ⟨smaller, enough, equal⟩ := same budget (used ++ list) front fits
      rw [equal]
      exact settled smaller list heads enough

theorem Settles.mono {parser : Nat → Parser α} (settles : Settles extra parser rule tokens)
    {larger : Nat} (le : extra ≤ larger) : Settles larger parser rule tokens := by
  have same : Settles extra parser (rule.after []) tokens := settles
  exact same.transfer fun budget list _ fits =>
    ⟨budget, Nat.le_trans (Nat.add_le_add_right le _) fits, rfl⟩

theorem Settles.bind {first : Nat → Parser β} {next : Nat → β → Parser α} {piece : Rule β}
    (settles : Settles extra first piece tokens)
    (begins : ∀ used rest, tokens = used ++ rest → Begun piece used → Begun rule used)
    (goes_on : ∀ used rest value, tokens = used ++ rest → piece (front? rest) used value →
      Settles (extra + used.length) (fun budget => next budget value) (rule.after used) rest) :
    Settles extra (fun budget => first budget >>= next budget) rule tokens := by
  cases settles with
  | fails used rest error shape position begun same =>
      exact .fails used rest error shape position (begins used rest shape begun)
        fun budget other heads fits => bind_error (same budget other heads fits) _
  | reads used rest value shape derived same =>
      have taken : ∀ more budget other, rest = more ++ other → ∀ others,
          others.head? = other.head? → extra + (used ++ more ++ others).length ≤ budget →
          (first budget >>= next budget) (used ++ more ++ others)
            = next budget value (more ++ others) := by
        intro more budget other shape others heads fits
        rw [List.append_assoc] at fits ⊢
        refine bind_ok (same budget (more ++ others) ?_ fits) _
        rw [shape]
        exact head?_append_congr heads more
      cases goes_on used rest value shape derived with
      | fails more others error shape' position begun same' =>
          refine .fails (used ++ more) others error (by rw [shape, shape', List.append_assoc])
            position begun.of_after fun budget other heads fits => ?_
          rw [taken more budget others shape' other heads fits]
          refine same' budget other heads ?_
          simp only [List.length_append] at fits ⊢
          omega
      | reads more others result shape' derived' same' =>
          refine .reads (used ++ more) others result (by rw [shape, shape', List.append_assoc])
            derived' fun budget other heads fits => ?_
          rw [taken more budget others shape' other heads fits]
          refine same' budget other heads ?_
          simp only [List.length_append] at fits ⊢
          omega

/-- What is read makes a phrase of another rule. -/
theorem Settles.map {first : Nat → Parser β} {piece : Rule β} {f : β → α}
    (settles : Settles extra first piece tokens)
    (makes : ∀ next used value, piece next used value → rule next used (f value)) :
    Settles extra (fun budget => first budget >>= fun value => pure (f value)) rule tokens := by
  cases settles with
  | reads used rest value shape derived same =>
      exact .reads used rest (f value) shape (makes _ _ _ derived) fun budget other heads fits =>
        bind_ok (same budget other heads fits) _
  | fails used rest error shape position begun same =>
      obtain ⟨more, value, mild, derived⟩ := begun
      exact .fails used rest error shape position ⟨more, f value, mild, makes _ _ _ derived⟩
        fun budget other heads fits => bind_error (same budget other heads fits) _

theorem Settles.imp {parser : Nat → Parser α} {other : Rule α}
    (settles : Settles extra parser rule tokens)
    (makes : ∀ next used value, rule next used value → other next used value) :
    Settles extra parser other tokens := by
  cases settles with
  | reads used rest value shape derived same =>
      exact .reads used rest value shape (makes _ _ _ derived) same
  | fails used rest error shape position begun same =>
      obtain ⟨more, value, mild, derived⟩ := begun
      exact .fails used rest error shape position ⟨more, value, mild, makes _ _ _ derived⟩ same

theorem settles_pure {value : α} (derived : rule (front? tokens) [] value) :
    Settles extra (fun _ => pure value) rule tokens :=
  .reads [] tokens value rfl derived fun _ _ _ _ => rfl

theorem settles_fail {expected : Expected} (begun : Begun rule []) :
    Settles extra (fun _ => fail expected) rule tokens := by
  refine .fails [] tokens (.ofRest expected tokens) rfl ?_ begun fun budget other heads fits => ?_
  · cases tokens <;> rfl
  · show Except.error (SyntaxError.ofRest expected other) = _
    cases tokens with
    | nil => rw [List.head?_eq_none_iff.mp heads]
    | cons token tokens =>
        obtain ⟨others, rfl⟩ := List.head?_eq_some_iff.mp heads
        rfl

/-! ## Looking at the token ahead -/

/-- A parser that does the same whenever the token ahead is this one. -/
theorem Settles.congr {parser other : Nat → Parser α}
    (settles : Settles extra parser rule tokens)
    (same : ∀ budget list, list.head? = tokens.head? → extra + list.length ≤ budget →
      other budget list = parser budget list) :
    Settles extra other rule tokens := by
  have settled : Settles extra parser (rule.after []) tokens := settles
  exact settled.transfer fun budget list heads fits => ⟨budget, fits, same budget list heads fits⟩

/-- A round of a repetition; the rounds left are those of the budget that are not used up. -/
theorem Settles.round {next : Nat → Parser α} (settles : Settles extra next rule tokens)
    (parser : Nat → Nat → Parser α) {count : Nat}
    (unfolds : ∀ budget, parser budget (budget - (count + 1) + 1) = next budget)
    (enough : count < extra) :
    Settles extra (fun budget => parser budget (budget - count)) rule tokens := by
  refine settles.congr fun budget list _ fits => ?_
  have left : budget - count = (budget - (count + 1)) + 1 := by omega
  rw [left, unfolds]

theorem settles_ahead {next : Nat → Option Terminal → Parser α}
    (settles : Settles extra (fun budget => next budget (front? tokens)) rule tokens) :
    Settles extra (fun budget => ahead >>= next budget) rule tokens :=
  settles.congr fun budget list heads _ => by rw [ahead_bind, front?_congr heads]

theorem settles_operatorAhead? {level : Level} {next : Nat → Option Operator → Parser α}
    (settles : Settles extra (fun budget => next budget ((front? tokens).bind level.operator?))
      rule tokens) :
    Settles extra (fun budget => operatorAhead? level >>= next budget) rule tokens :=
  settles.congr fun budget list heads _ => by rw [operatorAhead?_bind, front?_congr heads]

/-- A parser that takes the token ahead, whatever stands behind it. -/
theorem settles_take {token : Token} {parser next : Nat → Parser α}
    (step : ∀ budget list, parser budget (token :: list) = next budget list)
    (settles : Settles (extra + 1) next (rule.after [token]) rest) :
    Settles extra parser rule (token :: rest) := by
  refine settles.transfer fun budget list _ fits => ⟨budget, ?_, step budget list⟩
  rw [List.length_append, List.length_singleton] at fits
  omega

theorem settles_skip {token : Token} {next : Nat → Unit → Parser α}
    (settles : Settles (extra + 1) (fun budget => next budget ()) (rule.after [token]) rest) :
    Settles extra (fun budget => skip >>= next budget) rule (token :: rest) :=
  settles_take (fun _ _ => rfl) settles

/-- The other way round, for a parser that takes the token ahead in any case: it does so if it
can read anything that begins with this token. -/
theorem Settles.uncons {token : Token} {parser : Nat → Parser α}
    (settles : Settles extra parser rule (token :: rest))
    (nonempty : ∀ next value, ¬ rule next [] value)
    (commits : ∃ budget list result, extra + (token :: list).length ≤ budget
      ∧ parser budget (token :: list) = .ok result) :
    Settles (extra + 1) (fun budget list => parser budget (token :: list)) (rule.after [token])
      rest := by
  cases settles with
  | reads used others value shape derived same =>
      cases used with
      | nil => exact absurd derived (nonempty _ _)
      | cons first used =>
          obtain ⟨rfl, tail⟩ := List.cons.inj shape
          refine .reads used others value tail derived fun budget other heads fits =>
            same budget other heads ?_
          rw [List.cons_append, List.length_cons]
          omega
  | fails used others error shape position begun same =>
      cases used with
      | nil =>
          obtain ⟨budget, list, result, fits, read⟩ := commits
          have heads : (token :: list).head? = others.head? := by
            rw [← List.nil_append others, ← shape]
            rfl
          have failed := same budget (token :: list) heads fits
          rw [List.nil_append, read] at failed
          cases failed
      | cons first used =>
          obtain ⟨rfl, tail⟩ := List.cons.inj shape
          refine .fails used others error tail position begun fun budget other heads fits =>
            same budget other heads ?_
          rw [List.cons_append, List.length_cons]
          omega

/-- A token of one kind is taken if it is ahead, and something else is done if it is not. -/
theorem settles_either {terminal : Terminal} {parser no : Nat → Parser α}
    {yes : Token → Nat → Parser α}
    (here : ∀ budget {token : Token} list, token.terminal = terminal →
      parser budget (token :: list) = yes token budget list)
    (elsewhere : ∀ budget list, front? list ≠ some terminal →
      parser budget list = no budget list)
    (taken : ∀ token rest, tokens = token :: rest → token.terminal = terminal →
      Settles (extra + 1) (yes token) (rule.after [token]) rest)
    (left : front? tokens ≠ some terminal → Settles extra no rule tokens) :
    Settles extra parser rule tokens := by
  by_cases front : front? tokens = some terminal
  · cases tokens with
    | nil => cases front
    | cons token rest =>
        have kind := Option.some.inj front
        exact settles_take (fun budget list => here budget list kind) (taken token rest rfl kind)
  · exact (left front).congr fun budget list heads _ =>
      elsewhere budget list (by rw [front?_congr heads]; exact front)

theorem settles_accept {sign : Symbol} {yes no : Nat → Parser α}
    (taken : ∀ token rest, tokens = token :: rest → token.terminal = .symbol sign →
      Settles (extra + 1) yes (rule.after [token]) rest)
    (left : front? tokens ≠ some (.symbol sign) → Settles extra no rule tokens) :
    Settles extra (fun budget => accept sign >>= fun here =>
      if here = true then yes budget else no budget) rule tokens :=
  settles_either (fun _ _ list here => by rw [bind_ok (accept_here here list), if_pos rfl])
    (fun _ _ elsewhere => by rw [bind_ok (accept_elsewhere elsewhere), if_neg Bool.false_ne_true])
    taken left

theorem settles_symbol {sign : Symbol} {next : Nat → Unit → Parser α} (begun : Begun rule [])
    (taken : ∀ token rest, tokens = token :: rest → token.terminal = .symbol sign →
      Settles (extra + 1) (fun budget => next budget ()) (rule.after [token]) rest) :
    Settles extra (fun budget => symbol sign >>= next budget) rule tokens :=
  settles_either (fun _ _ list here => bind_ok (symbol_here here list) _)
    (fun _ _ elsewhere => bind_error (symbol_elsewhere elsewhere) _)
    taken (fun _ => settles_fail begun)

theorem settles_name {rule : Rule Name} (begun : Begun rule [])
    (named : ∀ token rest, tokens = token :: rest → token.terminal = .name →
      rule (front? rest) [token] token.named) : Settles extra (fun _ => name) rule tokens :=
  settles_either (fun _ _ list here => name_here here list)
    (fun _ _ elsewhere => name_elsewhere elsewhere)
    (fun token rest shape here => settles_pure (named token rest shape here))
    (fun _ => settles_fail begun)

end

end Scriptlet.Grammar
