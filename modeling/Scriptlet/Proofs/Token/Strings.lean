/-
# Proofs.Token.Strings -- every text as a string

A text is written as a string between quotes, with a backslash before each quote and each backslash
in it; its line feeds and tabs may be written by letters or stand as they are (`written`).  Such a
string is one token whatever is behind it, and stands for the text that was written.  What is behind
it has the tokens, or the error, that it has by itself, so many bytes further on
(`tokenize_written`).

The end of a string is found by one rule and its inside is read by another, and they agree on which
characters a backslash takes along: no inside of a string ends in a backslash that has nothing to
take (`unescape?_of_stringBody`).
-/
import Scriptlet.Proofs.Token.Failures

namespace Scriptlet

set_option autoImplicit false

/-! ## Writing -/

/-- How a character is written inside a string, a line feed or a tab perhaps by its letter. -/
def spellChar (lettered : Bool) (c : Char) : List Char :=
  if c = '"' ∨ c = '\\' then ['\\', c]
  else if lettered ∧ c = '\n' then ['\\', 'n']
  else if lettered ∧ c = '\t' then ['\\', 't']
  else [c]

/-- A text as the inside of a string, with letters for the line feeds and tabs at some places. -/
def spell : (Nat → Bool) → List Char → List Char
  | _, [] => []
  | lettered, c :: text =>
      spellChar (lettered 0) c ++ spell (fun place => lettered (place + 1)) text

/-- The string with this inside. -/
def stringOf (body : List Char) : String := String.ofList ('"' :: (body ++ ['"']))

@[simp] theorem toList_stringOf (body : List Char) :
    (stringOf body).toList = '"' :: (body ++ ['"']) := String.toList_ofList

/-- A text as a string. -/
def written (lettered : Nat → Bool) (text : String) : String :=
  stringOf (spell lettered text.toList)

/-! ## Reading -/

/-- The text that the inside of a string stands for, unless a backslash at its end is met. -/
def unescape? : List Char → Option (List Char)
  | [] => some []
  | ['\\'] => none
  | '\\' :: c :: rest => (unescape? rest).map (Text.unescapeChar c :: ·)
  | c :: rest => (unescape? rest).map (c :: ·)

variable {c : Char} {body text rest : List Char}

theorem unescape?_plain (plain : c ≠ '\\') (body : List Char) :
    unescape? (c :: body) = (unescape? body).map (c :: ·) := by
  cases body <;> simp [unescape?, plain]

theorem unescape_of_unescape? (read : unescape? body = some text) :
    Pattern.unescape body = text := by
  fun_induction unescape? body generalizing text with
  | case1 =>
      cases read
      rfl
  | case2 => cases read
  | case3 c rest ih =>
      obtain ⟨others, inner, rfl⟩ := Option.map_eq_some_iff.mp read
      rw [Pattern.unescape, ih inner]
      rfl
  | case4 c rest alone pair ih =>
      obtain ⟨others, inner, rfl⟩ := Option.map_eq_some_iff.mp read
      have plain : c ≠ '\\' := by
        rintro rfl
        cases rest with
        | nil => exact alone rfl rfl
        | cons d rest => exact pair d rest rfl rfl
      rw [Text.unescape_cons plain, ih inner]

/-- The inside of a string has no backslash at its end that takes nothing along. -/
theorem unescape?_of_stringBody (inside : StringBody body) :
    ∃ text, unescape? body = some text := by
  induction inside with
  | nil => exact ⟨[], rfl⟩
  | @plain c body _ plain _ ih =>
      obtain ⟨text, read⟩ := ih
      exact ⟨c :: text, by rw [unescape?_plain plain, read, Option.map_some]⟩
  | @escaped c body _ _ ih =>
      obtain ⟨text, read⟩ := ih
      exact ⟨Text.unescapeChar c :: text, by rw [unescape?, read, Option.map_some]⟩

/-! ## Written texts are read -/

theorem stringBody_spellChar (lettered : Bool) (c : Char) (inside : StringBody body) :
    StringBody (spellChar lettered c ++ body) := by
  unfold spellChar
  split_ifs with quoted
  · rcases quoted with rfl | rfl <;> exact .escaped (by decide) inside
  · exact .escaped (by decide) inside
  · exact .escaped (by decide) inside
  · rw [not_or] at quoted
    exact .plain quoted.1 quoted.2 inside

theorem unescape?_spellChar (lettered : Bool) (c : Char) (body : List Char) :
    unescape? (spellChar lettered c ++ body) = (unescape? body).map (c :: ·) := by
  unfold spellChar
  split_ifs with quoted feed tab
  · rcases quoted with rfl | rfl <;> rfl
  · rw [feed.2]
    rfl
  · rw [tab.2]
    rfl
  · rw [not_or] at quoted
    exact unescape?_plain quoted.2 body

theorem stringBody_spell (lettered : Nat → Bool) (text : List Char) :
    StringBody (spell lettered text) := by
  induction text generalizing lettered with
  | nil => exact .nil
  | cons c text ih => exact stringBody_spellChar (lettered 0) c (ih _)

theorem unescape?_spell (lettered : Nat → Bool) (text : List Char) :
    unescape? (spell lettered text) = some text := by
  induction text generalizing lettered with
  | nil => rfl
  | cons c text ih => rw [spell, unescape?_spellChar, ih, Option.map_some]

/-! ## Strings in front of other texts -/

theorem firstMatch?_string (inside : StringBody body) (rest : List Char) :
    firstMatch? ('"' :: (body ++ ['"']) ++ rest) = some (.string, '"' :: (body ++ ['"']), rest) :=
  Pattern.firstMatch?_of_split? (Pattern.split?_string inside) fun _ => Pattern.eq_string

theorem terminal?_string (body : List Char) (position : Nat) :
    Pattern.string.terminal? ('"' :: (body ++ ['"'])) position
      = .ok (some (.string (String.ofList (Pattern.unescape body)))) := by
  simp only [Pattern.terminal?, List.tail_cons, List.dropLast_concat]

/-- The error so many bytes further on. -/
def SyntaxError.moved (distance : Nat) : SyntaxError → SyntaxError
  | unexpectedCharacter position => .unexpectedCharacter (position + distance)
  | invalidNumber lexeme position => .invalidNumber lexeme (position + distance)
  | unexpected expected found position => .unexpected expected found (position + distance)

theorem Fault.moved {position : Nat} {error : SyntaxError} (fault : Fault position text error)
    (distance : Nat) : Fault (position + distance) text (error.moved distance) := by
  cases fault with
  | stray stray => exact .stray stray
  | tooLarge number large => exact .tooLarge number large

section

variable (inside : StringBody body) {more : String}

include inside

/-- The tokens of what is behind a string are those that it has by itself. -/
theorem tokenize_behind_string {found : List Token} (scanned : tokenize more = .ok found) :
    tokenize (stringOf body ++ more)
      = .ok (⟨.string (String.ofList (Pattern.unescape body)), stringOf body, 0⟩
          :: found.map (Token.moved (stringOf body).utf8ByteSize)) := by
  obtain ⟨tokens, rfl, inner⟩ := tokenize_ok_iff.mp scanned
  have both := Scanned.token (firstMatch?_string inside more.toList) (terminal?_string body 0)
    (inner.moved (stringOf body).utf8ByteSize)
  rw [← toList_stringOf, ← String.toList_append] at both
  refine tokenize_ok_iff.mpr ⟨_, ?_, both⟩
  rw [List.map_append, List.cons_append, String.utf8ByteSize_append, Nat.add_comm,
    String.ofList_toList]
  rfl

/-- The error of what is behind a string is the one that it has by itself. -/
theorem tokenize_error_behind_string {error : SyntaxError} (failed : tokenize more = .error error) :
    tokenize (stringOf body ++ more) = .error (error.moved (stringOf body).utf8ByteSize) := by
  obtain ⟨position, left, reaches, fault⟩ := (tokenize_error_iff Pattern.isWordChar).mp failed
  refine (tokenize_error_iff Pattern.isWordChar).mpr
    ⟨_, left, ?_, fault.moved (stringOf body).utf8ByteSize⟩
  rw [String.toList_append, toList_stringOf, Nat.add_comm]
  refine .further (longest_iff.mpr ⟨.string, firstMatch?_string inside more.toList⟩) ?_ reaches
  intro large
  cases large.1 '"' List.mem_cons_self

end

/-- A string of a text is the inside of a string between quotes, and its literal is what that stands
for. -/
theorem inside_of_string {source literal : String} {found : List Token} {token : Token}
    (scanned : tokenize source = .ok found) (among : token ∈ found)
    (string : token.terminal = .string literal) :
    ∃ body, token.lexeme.toList = '"' :: (body ++ ['"'])
      ∧ unescape? body = some literal.toList := by
  obtain ⟨tokens, rfl, inner⟩ := tokenize_ok_iff.mp scanned
  rcases List.mem_append.mp among with among | last
  · obtain ⟨_, rest, pattern, _, _, _, found, decoded, _⟩ := inner.cut among
    have kind := Pattern.pattern?_of_terminal? decoded
    rw [string] at kind
    cases Option.some.inj kind
    have matching := Pattern.matches_of_split? (split?_of_firstMatch? found)
    generalize token.lexeme.toList = lexeme at matching decoded ⊢
    cases matching with
    | @string body _ inside =>
        rw [terminal?_string, string] at decoded
        obtain ⟨text, read⟩ := unescape?_of_stringBody inside
        refine ⟨body, rfl, ?_⟩
        cases decoded
        rw [read, String.toList_ofList, unescape_of_unescape? read]
  · cases List.mem_singleton.mp last
    cases string

/-- **Strings can write every text.**  A text that is written as a string in front of any other one
is its first token, with that text as its literal, and the tokens or the error of what is behind it
follow as they are by themselves.  Every string of a text is read to its end without a backslash
that takes nothing along, and its literal, written as a string again, is read as the same one. -/
theorem tokenize_written (lettered : Nat → Bool) (text more : String) :
    (∀ found, tokenize more = .ok found → tokenize (written lettered text ++ more)
      = .ok (⟨.string text, written lettered text, 0⟩
          :: found.map (Token.moved (written lettered text).utf8ByteSize)))
    ∧ (∀ error, tokenize more = .error error → tokenize (written lettered text ++ more)
      = .error (error.moved (written lettered text).utf8ByteSize))
    ∧ ∀ source found token literal, tokenize source = .ok found → token ∈ found →
      token.terminal = .string literal →
      (∃ body, token.lexeme.toList = '"' :: (body ++ ['"'])
        ∧ unescape? body = some literal.toList)
      ∧ tokenize (written lettered literal) = .ok [⟨.string literal, written lettered literal, 0⟩,
          .endAt (written lettered literal).utf8ByteSize] := by
  have inside (text : String) := stringBody_spell lettered text.toList
  have literal (text : String) :
      String.ofList (Pattern.unescape (spell lettered text.toList)) = text := by
    rw [unescape_of_unescape? (unescape?_spell lettered text.toList), String.ofList_toList]
  refine ⟨fun found scanned => ?_, fun error failed => ?_, ?_⟩
  · have tokens := tokenize_behind_string (inside text) scanned
    rwa [literal text] at tokens
  · exact tokenize_error_behind_string (inside text) failed
  · intro source found token read scanned among string
    refine ⟨inside_of_string scanned among string, ?_⟩
    have alone := tokenize_behind_string (inside read) (show tokenize "" = .ok [.endAt 0] from rfl)
    rw [literal read, String.append_empty, ← written] at alone
    simpa [Token.moved, Token.endAt] using alone

/-- A quote, a backslash, a tab by its letter and a line feed as it is, with half of a sign
behind. -/
theorem tokenize_written_escapes :
    written (· == 3) "a\"\\\t\n" = "\"a\\\"\\\\\\t\n\""
    ∧ tokenize "&" = .error (.unexpectedCharacter 0)
    ∧ tokenize (written (· == 3) "a\"\\\t\n" ++ "&") = .error (.unexpectedCharacter 10)
    ∧ tokenize "f(\"\\q\")" = .ok [⟨.name, "f", 0⟩, ⟨.symbol .leftParen, "(", 1⟩,
        ⟨.string "q", "\"\\q\"", 2⟩, ⟨.symbol .rightParen, ")", 6⟩, .endAt 7]
    ∧ tokenize (written (· == 3) "q") = .ok [⟨.string "q", "\"q\"", 0⟩, .endAt 3] := by
  have spelled : written (· == 3) "a\"\\\t\n" = "\"a\\\"\\\\\\t\n\"" := by decide
  have size : (written (· == 3) "a\"\\\t\n").utf8ByteSize = 10 := by rw [spelled]; rfl
  have half : tokenize "&" = .error (.unexpectedCharacter 0) := rfl
  have call : tokenize "f(\"\\q\")" = .ok [⟨.name, "f", 0⟩, ⟨.symbol .leftParen, "(", 1⟩,
      ⟨.string "q", "\"\\q\"", 2⟩, ⟨.symbol .rightParen, ")", 6⟩, .endAt 7] := rfl
  have plain : written (· == 3) "q" = "\"q\"" := by decide
  obtain ⟨-, fails, again⟩ := tokenize_written (· == 3) "a\"\\\t\n" "&"
  have broken := fails _ half
  rw [size] at broken
  have alone := (again _ _ ⟨.string "q", "\"\\q\"", 2⟩ "q" call (by simp) rfl).2
  rw [plain] at alone
  rw [plain]
  exact ⟨spelled, half, broken, call, alone⟩

end Scriptlet
