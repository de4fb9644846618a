/-
# Proofs.Token.Phrases -- the tokens of a text piece by piece

`Scans` says of a piece of text which tokens it has, wherever it stands and whatever is behind it
that may be there, and `Refused` that no text has tokens in which it stands.  Pieces are put
together by `Scans.append`, and a refused piece anywhere refuses the whole.

The pieces that printed values are made of are signs, numbers, quoted texts and three keywords.
Digits are refused if no integer is as large as that; nothing else is.
-/
import Scriptlet.Proofs.Token.Escapes
import Scriptlet.Proofs.Token.Layout

namespace Scriptlet

set_option autoImplicit false

/-- The piece of text has these tokens, with any text behind it that may be there. -/
def Scans (behind : List Char → Prop) (piece : List Char) (tokens : Nat → List Token) : Prop :=
  ∀ position rest all, behind rest →
    (Scanned position (piece ++ rest) all
      ↔ ∃ others, all = tokens position ++ others ∧ Scanned (position + byteSize piece) rest others)

/-- No text with this piece has tokens, if something parts it from what is behind it. -/
def Refused (piece : List Char) : Prop :=
  ∀ position rest all, Pattern.Parted rest → ¬ Scanned position (piece ++ rest) all

/-- Any text. -/
def Anything (_ : List Char) : Prop := True

variable {behind further : List Char → Prop} {piece more : List Char}
  {tokens others : Nat → List Token}

/-! ## Pieces together -/

theorem Scans.imp (scans : Scans behind piece tokens) (may : ∀ rest, further rest → behind rest) :
    Scans further piece tokens :=
  fun position rest all here => scans position rest all (may rest here)

theorem Scans.append (first : Scans behind piece tokens) (second : Scans further more others)
    (meets : ∀ rest, further rest → behind (more ++ rest)) :
    Scans further (piece ++ more)
      fun position => tokens position ++ others (position + byteSize piece) := by
  intro position rest all may
  rw [List.append_assoc, first position _ all (meets rest may), byteSize_append, ← Nat.add_assoc]
  constructor
  · rintro ⟨left, rfl, scanned⟩
    obtain ⟨last, rfl, ends⟩ := (second _ rest left may).mp scanned
    exact ⟨last, (List.append_assoc _ _ _).symm, ends⟩
  · rintro ⟨left, rfl, scanned⟩
    exact ⟨_, List.append_assoc _ _ _, (second _ rest _ may).mpr ⟨left, rfl, scanned⟩⟩

theorem Scans.refused (first : Scans behind piece tokens) (refused : Refused more)
    (meets : ∀ rest, Pattern.Parted rest → behind (more ++ rest)) : Refused (piece ++ more) := by
  intro position rest all parted scanned
  rw [List.append_assoc] at scanned
  obtain ⟨left, -, scanned⟩ := (first position _ all (meets rest parted)).mp scanned
  exact refused _ rest left parted scanned

theorem Refused.before (refused : Refused piece)
    (meets : ∀ rest, Pattern.Parted rest → Pattern.Parted (more ++ rest)) :
    Refused (piece ++ more) := by
  intro position rest all parted scanned
  rw [List.append_assoc] at scanned
  exact refused position _ all (meets rest parted) scanned

/-! ## Whole texts -/

theorem Scans.tokenize {text : String} (scans : Scans behind text.toList tokens)
    (ends : behind []) : tokenize text = .ok (tokens 0 ++ [.endAt text.utf8ByteSize]) := by
  have scanned := (scans 0 [] (tokens 0) ends).mpr ⟨[], (List.append_nil _).symm, .done⟩
  rw [List.append_nil] at scanned
  exact tokenize_ok_iff.mpr ⟨tokens 0, rfl, scanned⟩

theorem Refused.tokenize {text : String} (refused : Refused text.toList) (found : List Token) :
    tokenize text ≠ .ok found := by
  intro scanned
  obtain ⟨tokens, -, scanned⟩ := tokenize_ok_iff.mp scanned
  rw [← List.append_nil text.toList] at scanned
  exact refused 0 [] tokens Pattern.parted_nil scanned

/-! ## Signs and gaps -/

theorem scans_gap (blanks : Blanks piece) : Scans Anything piece fun _ => [] := by
  intro position rest all _
  rw [scanned_gap_iff blanks]
  exact ⟨fun scanned => ⟨all, rfl, scanned⟩, fun ⟨_, same, scanned⟩ => same ▸ scanned⟩

/-- A symbol that none goes on with is taken whatever is behind it. -/
theorem scans_sign (sign : Symbol)
    (alone : ∀ rest, firstMatch? (sign.spelling.toList ++ rest)
      = some (.symbol sign, sign.spelling.toList, rest)) :
    Scans Anything sign.spelling.toList
      fun position => [⟨.symbol sign, sign.spelling, position⟩] := by
  intro position rest all _
  constructor
  · intro scanned
    generalize whole : sign.spelling.toList ++ rest = text at scanned
    have taken := whole ▸ alone rest
    cases scanned with
    | done => cases taken
    | blank found decoded _ =>
        cases taken.symm.trans found
        cases decoded
    | token found decoded scanned =>
        cases taken.symm.trans found
        cases decoded
        exact ⟨_, by rw [String.ofList_toList]; rfl, scanned⟩
  · rintro ⟨others, rfl, scanned⟩
    have token := Scanned.token (alone rest) rfl scanned
    rwa [String.ofList_toList] at token

theorem scans_lexed {token : Token} (lexed : token.Lexed) :
    Scans Pattern.Parted token.lexeme.toList fun position => [{ token with position }] := by
  intro position rest all parted
  rw [lexed.scanned_iff parted, byteSize_toList]
  rfl

/-! ## Numbers -/

namespace Pattern

/-- A lexeme by itself is taken whole by a pattern that no other one shares its front with. -/
theorem firstMatch?_alone {pattern : Pattern} {lexeme : List Char}
    (matching : pattern.Matches isWordChar lexeme [])
    (alone : ∀ other : Pattern, other.front = pattern.front → other = pattern) :
    firstMatch? lexeme = some (pattern, lexeme, []) := by
  obtain ⟨longest, left, taken, longer⟩ := longest_of_split? matching
  rw [List.append_nil] at taken
  obtain ⟨whole, -⟩ := split?_spec taken
  obtain ⟨rfl, rfl⟩ : longest = lexeme ∧ left = [] := by
    refine List.append_inj (whole.trans (List.append_nil _).symm) ?_
    have lengths := congrArg List.length whole
    rw [List.length_append] at lengths
    omega
  exact firstMatch?_of_split? taken alone

variable {digits : List Char} (nonempty : digits ≠ [])
  (decimal : ∀ c ∈ digits, c.isDigit = true)

include nonempty decimal in
theorem firstMatch?_digits : firstMatch? digits = some (number, digits, []) :=
  firstMatch?_alone (.whole nonempty decimal) fun _ => eq_number

include decimal in
theorem numberTerminal?_digits :
    numberTerminal? digits = (Integer.ofExact? (digitsValue digits)).map .integer := by
  have whole : digits.takeWhile Char.isDigit = digits := List.takeWhile_eq_self_iff.mpr decimal
  have nothing : digits.dropWhile Char.isDigit = [] := List.dropWhile_eq_nil_iff.mpr decimal
  simp only [numberTerminal?, nothing, whole]

theorem isDigit_of_mem_toDigits (n : Nat) : ∀ c ∈ Nat.toDigits 10 n, c.isDigit = true :=
  fun _ among => Nat.isDigit_of_mem_toDigits (by decide) (by decide) among

theorem digitsValue_toDigits (n : Nat) : digitsValue (Nat.toDigits 10 n) = n :=
  Nat.ofDigitChars_ten_toDigits

end Pattern

/-- Digits that write an integer, zeros in front of them included. -/
theorem lexed_numeral {digits : List Char} (nonempty : digits ≠ [])
    (decimal : ∀ c ∈ digits, c.isDigit = true) {word : Int64}
    (fits : Integer.ofExact? (Pattern.digitsValue digits) = some word) :
    Token.Lexed ⟨.integer word, String.ofList digits, 0⟩ := by
  refine ⟨.number, [], ?_, ?_⟩
  · simpa using Pattern.firstMatch?_digits nonempty decimal
  · simp only [Pattern.terminal?, String.toList_ofList, Pattern.numberTerminal?_digits decimal,
      fits, Option.map_some]

/-- The digits of an integer. -/
theorem lexed_digits {n : Nat} {word : Int64} (fits : Integer.ofExact? n = some word) :
    Token.Lexed ⟨.integer word, n.repr, 0⟩ := by
  rw [← Pattern.digitsValue_toDigits n] at fits
  exact lexed_numeral Nat.toDigits_ne_nil (Pattern.isDigit_of_mem_toDigits n) fits

/-- The digits of a number that is too large for an integer. -/
theorem refused_digits {n : Nat} (large : Integer.ofExact? n = none) :
    Refused n.repr.toList := by
  intro position rest all parted scanned
  have decimal := Pattern.isDigit_of_mem_toDigits n
  have alone : firstMatch? (n.repr.toList ++ []) = some (.number, n.repr.toList, []) := by
    simpa using Pattern.firstMatch?_digits Nat.toDigits_ne_nil decimal
  have taken := firstMatch?_parted alone (by decide) parted
  have wrong : Pattern.number.terminal? n.repr.toList position
      = .error (.invalidNumber (String.ofList n.repr.toList) position) := by
    simp only [Pattern.terminal?, Nat.toList_repr, Pattern.numberTerminal?_digits decimal,
      Pattern.digitsValue_toDigits, large, Option.map_none]
  generalize n.repr.toList ++ rest = text at scanned taken
  cases scanned with
  | done => cases taken
  | blank found decoded _ | token found decoded _ =>
      cases taken.symm.trans found
      cases wrong.symm.trans decoded

/-! ## Quoted texts -/

/-- A quoted text is one string. -/
theorem lexed_quote (text : String) : ∃ read, Token.Lexed ⟨.string read, Text.quote text, 0⟩
    ∧ Text.Legible read ∧ (Text.Legible text → read = text) := by
  obtain ⟨read, stands, legible, same⟩ := Text.unescape_escaped text.toList
  have lexeme : (Text.quote text).toList
      = '"' :: (text.toList.flatMap Text.escapeChar ++ ['"']) := by simp [Text.quote]
  refine ⟨String.ofList read, ⟨.string, [], ?_, ?_⟩, ?_, fun all => ?_⟩
  · rw [List.append_nil, lexeme]
    exact Pattern.firstMatch?_alone (.string (Text.stringBody_escaped text.toList))
      fun _ => Pattern.eq_string
  · rw [lexeme]
    simp only [Pattern.terminal?, List.tail_cons, List.dropLast_concat, stands]
  · simpa [Text.Legible] using legible
  · rw [same all, String.ofList_toList]

/-! ## Keywords -/

theorem lexed_keyword (word : Keyword) : Token.Lexed ⟨.keyword word, word.spelling, 0⟩ := by
  refine ⟨.keyword, [], ?_, ?_⟩ <;> cases word <;> rfl

end Scriptlet
