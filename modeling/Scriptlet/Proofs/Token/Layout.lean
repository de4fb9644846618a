/-
# Proofs.Token.Layout -- lexemes with other blanks between them

A lexeme is `Lexed` if it is taken off the front of some text.  It is then taken off the front of
every text in which something parts it from what comes (`Token.Lexed.scanned_iff`), and blanks
part all lexemes.  How many of them stand there, and which, makes no difference
(`scanned_gap_iff`).

So the lexemes of a text may be written down again with other gaps before, between and behind
them, and they are the tokens of the new text, at their new places (`tokenize_spread`).
-/
import Scriptlet.Proofs.Token.Tiling

namespace Scriptlet

set_option autoImplicit false

variable {position : Nat} {text rest : List Char} {tokens : List Token}

/-! ## Gaps -/

/-- Nothing but blanks. -/
def Blanks (gap : List Char) : Prop := ∀ c ∈ gap, Text.isBlank c = true

instance : DecidablePred Blanks := fun gap =>
  decidable_of_iff (gap.all Text.isBlank = true) List.all_eq_true

theorem firstMatch?_blank {c : Char} (blank : Text.isBlank c = true) (text : List Char) :
    firstMatch? (c :: text) = some (.blanks, (c :: text).takeWhile Text.isBlank,
      (c :: text).dropWhile Text.isBlank) := by
  simp [firstMatch?, Pattern.rules, Pattern.split?, blank]

/-- The blanks at the front of a text belong to no token. -/
theorem scanned_dropWhile_iff : Scanned position text tokens
    ↔ Scanned (position + byteSize (text.takeWhile Text.isBlank)) (text.dropWhile Text.isBlank)
      tokens := by
  cases text with
  | nil => exact Iff.rfl
  | cons c text =>
      by_cases blank : Text.isBlank c = true
      · constructor
        · intro scanned
          cases scanned with
          | blank found _ further =>
              cases (firstMatch?_blank blank text).symm.trans found
              exact further
          | token found decoded _ =>
              cases (firstMatch?_blank blank text).symm.trans found
              cases decoded
        · exact fun further => .blank (firstMatch?_blank blank text) rfl further
      · rw [List.takeWhile_cons_of_neg blank, List.dropWhile_cons_of_neg blank]
        exact Iff.rfl

/-- A gap before a text belongs to no token. -/
theorem scanned_gap_iff {gap : List Char} (blanks : Blanks gap) :
    Scanned position (gap ++ rest) tokens ↔ Scanned (position + byteSize gap) rest tokens := by
  have front := @scanned_dropWhile_iff position (gap ++ rest) tokens
  rw [List.takeWhile_append_of_pos blanks, List.dropWhile_append_of_pos blanks, byteSize_append,
    ← Nat.add_assoc] at front
  exact front.trans scanned_dropWhile_iff.symm

theorem Blanks.parted {gap : List Char} (blanks : Blanks gap) (parted : Pattern.Parted rest) :
    Pattern.Parted (gap ++ rest) := by
  cases gap with
  | nil => exact parted
  | cons c more =>
      exact Pattern.parted_cons.mpr (Pattern.parts_of_blank (blanks c List.mem_cons_self))

/-! ## Lexemes -/

/-- The lexeme of the token is taken off some text and stands for its terminal. -/
def Token.Lexed (token : Token) : Prop :=
  ∃ pattern rest,
    firstMatch? (token.lexeme.toList ++ rest) = some (pattern, token.lexeme.toList, rest)
    ∧ pattern.terminal? token.lexeme.toList token.position = .ok (some token.terminal)

theorem Scanned.lexed (scanned : Scanned position text tokens) :
    ∀ token ∈ tokens, token.Lexed := by
  intro token among
  obtain ⟨_, rest, pattern, _, _, _, found, decoded, _⟩ := scanned.cut among
  exact ⟨pattern, rest, found, decoded⟩

/-- A lexeme is taken off every text that begins with it and goes on with something else. -/
theorem Token.Lexed.scanned_iff {token : Token} (lexed : token.Lexed)
    (parted : Pattern.Parted rest) :
    Scanned position (token.lexeme.toList ++ rest) tokens
      ↔ ∃ others, tokens = { token with position } :: others
        ∧ Scanned (position + token.lexeme.utf8ByteSize) rest others := by
  obtain ⟨pattern, behind, found, decoded⟩ := lexed
  have plain : pattern ≠ .blanks := by
    rintro rfl
    cases decoded
  have taken := firstMatch?_parted found plain parted
  have stands := Pattern.terminal?_elsewhere decoded position
  constructor
  · intro scanned
    generalize whole : token.lexeme.toList ++ rest = text at scanned
    cases scanned with
    | done =>
        rw [whole] at taken
        cases taken
    | blank first nothing _ =>
        cases (whole ▸ taken).symm.trans first
        cases stands.symm.trans nothing
    | token first named further =>
        cases (whole ▸ taken).symm.trans first
        cases stands.symm.trans named
        rw [byteSize_toList] at further
        exact ⟨_, by rw [String.ofList_toList], further⟩
  · rintro ⟨others, rfl, further⟩
    rw [← byteSize_toList] at further
    have scanned := Scanned.token taken stands further
    rwa [String.ofList_toList] at scanned

/-! ## Texts that are written anew -/

/-- Each lexeme behind its gap, and a gap at the end. -/
def spread : List (String × Token) → String → String
  | [], last => last
  | (gap, token) :: pieces, last => gap ++ token.lexeme ++ spread pieces last

/-- The tokens where their lexemes are written. -/
def placed (position : Nat) : List (String × Token) → List Token
  | [] => []
  | (gap, token) :: pieces =>
      { token with position := position + gap.utf8ByteSize }
        :: placed (position + gap.utf8ByteSize + token.lexeme.utf8ByteSize) pieces

theorem map_terminal_placed (position : Nat) (pieces : List (String × Token)) :
    (placed position pieces).map Token.terminal = (pieces.map Prod.snd).map Token.terminal := by
  induction pieces generalizing position with
  | nil => rfl
  | cons piece pieces ih => exact congrArg (piece.2.terminal :: ·) (ih _)

/-- The lexeme of the token is taken for it in front of a text. -/
def Token.StandsBefore (token : Token) (rest : List Char) : Prop :=
  ∀ position others, Scanned (position + token.lexeme.utf8ByteSize) rest others →
    Scanned position (token.lexeme.toList ++ rest) ({ token with position } :: others)

theorem Token.Lexed.standsBefore {token : Token} (lexed : token.Lexed)
    (parted : Pattern.Parted rest) : token.StandsBefore rest :=
  fun _ _ scanned => (lexed.scanned_iff parted).mpr ⟨_, rfl, scanned⟩

/-- Gaps that are blank, and lexemes each of which is taken for its token where it is written. -/
def Separate : List (String × Token) → String → Prop
  | [], last => Blanks last.toList
  | (gap, token) :: pieces, last => Blanks gap.toList
      ∧ token.StandsBefore (spread pieces last).toList ∧ Separate pieces last

/-- Lexemes that are taken for their tokens are the tokens of the text. -/
theorem scanned_spread {pieces : List (String × Token)} {last : String}
    (separate : Separate pieces last) :
    Scanned position (spread pieces last).toList (placed position pieces) := by
  induction pieces generalizing position with
  | nil =>
      have scanned := (scanned_gap_iff separate).mpr
        (.done : Scanned (position + byteSize last.toList) [] [])
      rwa [List.append_nil] at scanned
  | cons piece pieces ih =>
      obtain ⟨gap, token⟩ := piece
      obtain ⟨blanks, stands, further⟩ := separate
      rw [spread, String.toList_append, String.toList_append, List.append_assoc,
        scanned_gap_iff blanks, byteSize_toList]
      exact stands _ _ (ih further)

theorem tokenize_of_separate {pieces : List (String × Token)} {last : String}
    (separate : Separate pieces last) : tokenize (spread pieces last)
      = .ok (placed 0 pieces ++ [.endAt (spread pieces last).utf8ByteSize]) :=
  tokenize_ok_iff.mpr ⟨_, rfl, scanned_spread separate⟩

/-- Gaps that are blank, and not empty between two lexemes. -/
structure Gaps (pieces : List (String × Token)) (last : String) : Prop where
  blanks : ∀ piece ∈ pieces, Blanks piece.1.toList
  ends : Blanks last.toList
  between : ∀ piece ∈ pieces.tail, piece.1 ≠ ""

namespace Gaps

variable {pieces : List (String × Token)} {last gap : String} {token : Token}

theorem further (gaps : Gaps ((gap, token) :: pieces) last) : Gaps pieces last where
  blanks piece among := gaps.blanks piece (List.mem_cons_of_mem _ among)
  ends := gaps.ends
  between piece among := gaps.between piece (List.mem_of_mem_tail among)

theorem parted_of_blanks {gap : List Char} (blanks : Blanks gap) (nonempty : gap ≠ [])
    (rest : List Char) : Pattern.Parted (gap ++ rest) := by
  obtain ⟨c, more, rfl⟩ := List.exists_cons_of_ne_nil nonempty
  exact Pattern.parted_cons.mpr (Pattern.parts_of_blank (blanks c List.mem_cons_self))

/-- What is written behind the first lexeme parts it from the others. -/
theorem parted (gaps : Gaps ((gap, token) :: pieces) last) :
    Pattern.Parted (spread pieces last).toList := by
  cases pieces with
  | nil =>
      have parted := gaps.ends.parted Pattern.parted_nil
      rwa [List.append_nil] at parted
  | cons piece pieces =>
      have blanks := gaps.blanks piece (by simp)
      have nonempty := gaps.between piece (by simp)
      rw [spread, String.toList_append, String.toList_append, List.append_assoc]
      exact parted_of_blanks blanks (by simpa using nonempty) _

theorem separate (gaps : Gaps pieces last) (lexed : ∀ piece ∈ pieces, piece.2.Lexed) :
    Separate pieces last := by
  induction pieces with
  | nil => exact gaps.ends
  | cons piece pieces ih =>
      rw [List.forall_mem_cons] at lexed
      exact ⟨gaps.blanks _ List.mem_cons_self, lexed.1.standsBefore gaps.parted,
        ih gaps.further lexed.2⟩

end Gaps

/-- The lexemes of a text with other gaps between them are taken for the same tokens, each where it
is written. -/
theorem tokenize_spread {text last : String} {pieces : List (String × Token)} {marker : Token}
    (scanned : tokenize text = .ok (pieces.map Prod.snd ++ [marker])) (gaps : Gaps pieces last) :
    tokenize (spread pieces last)
      = .ok (placed 0 pieces ++ [.endAt (spread pieces last).utf8ByteSize]) := by
  obtain ⟨tokens, same, inner⟩ := tokenize_ok_iff.mp scanned
  obtain ⟨rfl, -⟩ := List.append_inj' same rfl
  refine tokenize_of_separate (gaps.separate fun piece among => ?_)
  exact inner.lexed _ (List.mem_map_of_mem among)

end Scriptlet
