/-
# Proofs.Token.Tiling -- what the tokens of a text are

The tokens of a text tile it (`tokenize_tiled`).  Each stands at a character boundary, behind the
end of the one before it, and is the text at its position; what lies between is blank, and the
end marker stands at the end.  Each is the longest lexeme that any pattern matches where it
begins, by the first of the rules that match it, which is the one that its terminal names.

The proof follows the scan, lexeme by lexeme: `Scanned.cut` finds what was left of the text when
a token was taken, and `Scanned.apart` and `Scanned.outside` say where tokens lie.
-/
import Scriptlet.Proofs.Token.Munch

namespace Scriptlet

set_option autoImplicit false

/-- The pattern of the lexemes that stand for a terminal. -/
def Terminal.pattern? : Terminal → Option Pattern
  | endMarker => none
  | name => some .name
  | integer _ | float _ => some .number
  | string _ => some .string
  | keyword _ => some .keyword
  | symbol sign => some (.symbol sign)

/-- The bytes of a text that belong to a token. -/
def Token.Covers (token : Token) (offset : Nat) : Prop :=
  token.position ≤ offset ∧ offset < token.position + token.lexeme.utf8ByteSize

/-- The token is what the patterns take off a text at its position, which is a character boundary:
the longest lexeme that one of them matches there, by the first that matches it. -/
structure Token.Taken (isWord : Char → Bool) (text : String) (token : Token) : Prop where
  nonempty : token.lexeme ≠ ""
  here : ∃ before rest pattern, text = before ++ token.lexeme ++ rest
    ∧ token.position = before.utf8ByteSize
    ∧ pattern.Munches isWord token.lexeme.toList rest.toList
    ∧ pattern.terminal? token.lexeme.toList token.position = .ok (some token.terminal)
    ∧ token.terminal.pattern? = some pattern
  name : token.terminal = .name → ∀ word : Keyword, token.lexeme ≠ word.spelling

/-- The tokens of a text and its end marker lie behind each other, and nothing but blanks between
them. -/
structure Tiled (isWord : Char → Bool) (text : String) (found : List Token) : Prop where
  increasing : (found.map Token.position).Pairwise (· < ·)
  apart : found.Pairwise fun token next =>
    token.position + token.lexeme.utf8ByteSize ≤ next.position
  outside : ∀ before c after, text.toList = before ++ c :: after →
    (∀ token ∈ found, ¬ token.Covers (byteSize before)) → Text.isBlank c = true
  ends : ∃ tokens, found = tokens ++ [.endAt text.utf8ByteSize]
    ∧ ∀ token ∈ tokens, token.terminal ≠ .endMarker
  taken : ∀ token ∈ found, token.terminal ≠ .endMarker → token.Taken isWord text

/-! ## Terminals and patterns -/

namespace Pattern

variable {pattern : Pattern} {text lexeme rest : List Char} {position : Nat}

theorem pattern?_of_number {terminal : Terminal}
    (decoded : numberTerminal? lexeme = some terminal) :
    terminal.pattern? = some .number := by
  unfold numberTerminal? at decoded
  dsimp only at decoded
  split at decoded
  · obtain ⟨value, -, rfl⟩ := Option.map_eq_some_iff.mp decoded
    rfl
  · cases decoded
    rfl

/-- A terminal names the pattern of the lexemes that it comes from. -/
theorem pattern?_of_terminal? {terminal : Terminal}
    (decoded : pattern.terminal? lexeme position = .ok (some terminal)) :
    terminal.pattern? = some pattern := by
  cases pattern with
  | number =>
      unfold Pattern.terminal? at decoded
      dsimp only at decoded
      split at decoded
      · rename_i found
        cases decoded
        exact pattern?_of_number found
      · cases decoded
  | keyword =>
      simp only [Pattern.terminal?, Except.ok.injEq] at decoded
      obtain ⟨word, -, rfl⟩ := Option.map_eq_some_iff.mp decoded
      rfl
  | blanks => cases decoded
  | symbol | string | name =>
      cases decoded
      rfl

/-- Only blanks stand for nothing. -/
theorem eq_blanks_of_terminal? (found : pattern.split? text = some (lexeme, rest))
    (decoded : pattern.terminal? lexeme position = .ok none) : pattern = .blanks := by
  cases pattern with
  | blanks => rfl
  | keyword =>
      cases matches_of_split? found with
      | keyword word bound => cases word <;> cases decoded
  | number =>
      unfold Pattern.terminal? at decoded
      dsimp only at decoded
      split at decoded <;> cases decoded
  | symbol | string | name => cases decoded

/-- The first pattern that matches a keyword is not that of names. -/
theorem Munches.ne_keyword (munches : name.Munches isWordChar lexeme rest) (word : Keyword) :
    lexeme ≠ word.spelling.toList := by
  rintro rfl
  obtain ⟨earlier, later, order, none_earlier⟩ := munches.first
  have matching : keyword.Matches isWordChar word.spelling.toList rest :=
    .keyword word (munches.boundary rfl)
  have last : rules.Pairwise fun pattern _ => pattern ≠ name := by decide
  have among : keyword ∈ rules := by decide
  rw [order, List.pairwise_append, List.pairwise_cons] at last
  rw [order, List.mem_append, List.mem_cons] at among
  rcases among with before | same | behind
  · exact none_earlier keyword before matching
  · cases same
  · exact last.2.1.1 keyword behind rfl

end Pattern

/-! ## Where tokens lie -/

@[simp] theorem byteSize_toList (text : String) : byteSize text.toList = text.utf8ByteSize := by
  rw [byteSize, String.ofList_toList]

theorem byteSize_pos {lexeme : List Char} (nonempty : lexeme ≠ []) : 0 < byteSize lexeme := by
  rw [byteSize, Nat.pos_iff_ne_zero]
  simpa using nonempty

/-- A character of a text in two parts stands in the second part or in the first. -/
theorem cut_of_append {lexeme rest before after : List Char} {c : Char}
    (split : lexeme ++ rest = before ++ c :: after) :
    (∃ more, before = lexeme ++ more ∧ rest = more ++ c :: after)
      ∨ ∃ more, lexeme = before ++ c :: more := by
  rcases List.append_eq_append_iff.mp split with ⟨more, same, behind⟩ | ⟨more, same, behind⟩
  · exact .inl ⟨more, same, behind⟩
  · cases more with
    | nil => exact .inl ⟨[], by simpa using same.symm, by simpa using behind.symm⟩
    | cons d more =>
        cases List.head_eq_of_cons_eq behind
        exact .inr ⟨more, same⟩

namespace Scanned

variable {position : Nat} {text : List Char} {tokens : List Token}

/-- A text that has tokens begins with a blank or in ASCII. -/
theorem plain (scanned : Scanned position text tokens) :
    ∀ c, text.head? = some c → Text.isBlank c = true ∨ c.toNat < 128 := by
  intro c first
  obtain ⟨behind, rfl⟩ := List.head?_eq_some_iff.mp first
  cases scanned with
  | @blank _ _ lexeme rest pattern _ found _ _ | @token _ _ lexeme rest pattern _ _ found _ _ =>
      have here := split?_of_firstMatch? found
      obtain ⟨whole, nonempty⟩ := Pattern.split?_spec here
      obtain ⟨d, more, rfl⟩ := List.exists_cons_of_ne_nil nonempty
      cases List.head_eq_of_cons_eq whole
      exact (Pattern.matches_of_split? here).plain

/-- What was left of a text when a token was taken. -/
theorem cut (scanned : Scanned position text tokens) {token : Token} (among : token ∈ tokens) :
    ∃ before rest pattern others, text = before ++ token.lexeme.toList ++ rest
      ∧ token.position = position + byteSize before
      ∧ firstMatch? (token.lexeme.toList ++ rest) = some (pattern, token.lexeme.toList, rest)
      ∧ pattern.terminal? token.lexeme.toList token.position = .ok (some token.terminal)
      ∧ Scanned (token.position + token.lexeme.utf8ByteSize) rest others := by
  induction scanned with
  | done => cases among
  | @blank position text lexeme rest pattern tokens found _ _ ih =>
      obtain ⟨rfl, -⟩ := Pattern.split?_spec (split?_of_firstMatch? found)
      obtain ⟨before, behind, taken, others, rfl, place, munched⟩ := ih among
      refine ⟨lexeme ++ before, behind, taken, others, by simp, ?_, munched⟩
      rw [place, byteSize_append, Nat.add_assoc]
  | @token position text lexeme rest pattern terminal tokens found decoded further ih =>
      obtain ⟨rfl, -⟩ := Pattern.split?_spec (split?_of_firstMatch? found)
      rcases List.mem_cons.mp among with rfl | among
      · refine ⟨[], rest, pattern, tokens, ?_, rfl, ?_, ?_, further⟩
        · simp only [String.toList_ofList, List.nil_append]
        · simpa only [String.toList_ofList] using found
        · simpa only [String.toList_ofList] using decoded
      · obtain ⟨before, behind, taken, others, rfl, place, munched⟩ := ih among
        refine ⟨lexeme ++ before, behind, taken, others, by simp, ?_, munched⟩
        rw [place, byteSize_append, Nat.add_assoc]

/-- Tokens lie behind each other, inside the text. -/
theorem apart (scanned : Scanned position text tokens) :
    (∀ token ∈ tokens, position ≤ token.position
        ∧ token.position + token.lexeme.utf8ByteSize ≤ position + byteSize text)
      ∧ tokens.Pairwise fun token next =>
          token.position + token.lexeme.utf8ByteSize ≤ next.position := by
  induction scanned with
  | done => exact ⟨nofun, .nil⟩
  | @blank position text lexeme rest pattern tokens found _ _ ih =>
      obtain ⟨rfl, -⟩ := Pattern.split?_spec (split?_of_firstMatch? found)
      rw [byteSize_append]
      refine ⟨fun token among => ?_, ih.2⟩
      have inside := ih.1 token among
      omega
  | @token position text lexeme rest pattern terminal tokens found _ _ ih =>
      obtain ⟨rfl, -⟩ := Pattern.split?_spec (split?_of_firstMatch? found)
      rw [byteSize_append]
      constructor
      · rw [List.forall_mem_cons]
        refine ⟨⟨Nat.le_refl _, by dsimp only [byteSize]; omega⟩, fun token among => ?_⟩
        have inside := ih.1 token among
        omega
      · exact List.pairwise_cons.mpr ⟨fun next among => (ih.1 next among).1, ih.2⟩

/-- What belongs to no token is blank. -/
theorem outside (scanned : Scanned position text tokens) {before after : List Char} {c : Char}
    (split : text = before ++ c :: after)
    (uncovered : ∀ token ∈ tokens, ¬ token.Covers (position + byteSize before)) :
    Text.isBlank c = true := by
  induction scanned generalizing before with
  | done => simp at split
  | @blank position text lexeme rest pattern tokens found decoded _ ih =>
      have here := split?_of_firstMatch? found
      obtain ⟨rfl, -⟩ := Pattern.split?_spec here
      cases Pattern.eq_blanks_of_terminal? here decoded
      rcases cut_of_append split with ⟨more, rfl, same⟩ | ⟨more, rfl⟩
      · refine ih same fun token among => ?_
        rw [Nat.add_assoc, ← byteSize_append]
        exact uncovered token among
      · cases Pattern.matches_of_split? here with
        | blanks _ blank => exact blank c (by simp)
  | @token position text lexeme rest pattern terminal tokens found _ _ ih =>
      obtain ⟨rfl, -⟩ := Pattern.split?_spec (split?_of_firstMatch? found)
      rw [List.forall_mem_cons] at uncovered
      rcases cut_of_append split with ⟨more, rfl, same⟩ | ⟨more, rfl⟩
      · refine ih same fun token among => ?_
        rw [Nat.add_assoc, ← byteSize_append]
        exact uncovered.2 token among
      · have inside := byteSize_pos (List.cons_ne_nil c more)
        refine absurd ⟨Nat.le_add_right _ _, ?_⟩ uncovered.1
        show _ < position + byteSize (before ++ c :: more)
        rw [byteSize_append]
        omega

end Scanned

/-- A token of a text is what the patterns take where it stands. -/
theorem Token.taken_of_scanned {isWord : Char → Bool} (words : Pattern.WordClass isWord)
    {text : String} {tokens : List Token} (scanned : Scanned 0 text.toList tokens) {token : Token}
    (among : token ∈ tokens) : token.Taken isWord text := by
  obtain ⟨before, rest, pattern, others, whole, place, found, decoded, further⟩ :=
    scanned.cut among
  have munches := Pattern.munches_of_firstMatch? found
  have kind := Pattern.pattern?_of_terminal? decoded
  refine ⟨?_, ⟨String.ofList before, String.ofList rest, pattern, ?_, ?_, ?_, decoded, kind⟩, ?_⟩
  · intro empty
    exact munches.here.nonempty (by simp [empty])
  · apply String.toList_injective
    simpa using whole
  · rw [place, Nat.zero_add]
  · rw [String.toList_ofList]
    exact munches.of_ascii words further.plain
  · intro named word same
    rw [named] at kind
    cases Option.some.inj kind
    exact munches.ne_keyword word (by rw [same])

/-- **The tokens of a text tile it.** Whatever characters outside ASCII are characters of words. -/
theorem tokenize_tiled {isWord : Char → Bool} (words : Pattern.WordClass isWord) {text : String}
    {found : List Token} (scanned : tokenize text = .ok found) :
    Tiled isWord text found ∧ Pattern.rules.length = 28 := by
  obtain ⟨tokens, rfl, inner⟩ := tokenize_ok_iff.mp scanned
  have taken : ∀ token ∈ tokens, token.Taken isWord text := fun token among =>
    Token.taken_of_scanned words inner among
  have sized : ∀ token ∈ tokens, 0 < token.lexeme.utf8ByteSize := fun token among =>
    Nat.pos_iff_ne_zero.mpr fun empty =>
      (taken token among).nonempty (String.utf8ByteSize_eq_zero_iff.mp empty)
  obtain ⟨inside, apart⟩ := inner.apart
  have behind : (tokens ++ [Token.endAt text.utf8ByteSize]).Pairwise fun token next =>
      token.position + token.lexeme.utf8ByteSize ≤ next.position
        ∧ token.position < next.position := by
    rw [List.pairwise_append]
    refine ⟨apart.imp_of_mem fun among _ apart => ⟨apart, ?_⟩, List.pairwise_singleton _ _,
      fun token among marker last => ?_⟩
    · have size := sized _ among
      omega
    · cases List.mem_singleton.mp last
      have bound := (inside token among).2
      have size := sized token among
      simp only [Token.endAt]
      rw [byteSize_toList] at bound
      omega
  refine ⟨⟨?_, behind.imp And.left, ?_, ⟨tokens, rfl, inner.unmarked⟩, ?_⟩, rfl⟩
  · exact List.pairwise_map.mpr (behind.imp And.right)
  · intro before c after split uncovered
    refine inner.outside split fun token among => ?_
    rw [Nat.zero_add]
    exact uncovered token (List.mem_append_left _ among)
  · intro token among ends
    rcases List.mem_append.mp among with among | last
    · exact taken token among
    · cases List.mem_singleton.mp last
      exact absurd rfl ends

/-- Words of ASCII and one letter more. -/
def accentedWord (c : Char) : Bool := Pattern.isWordChar c || c == 'é'

theorem accentedWord_words : Pattern.WordClass accentedWord where
  ascii c low := by
    have plain : c ≠ 'é' := by
      rintro rfl
      exact absurd low (by decide)
    simp [accentedWord, plain]
  blank c blank := by
    have plain : c ≠ 'é' := by
      rintro rfl
      cases blank
    simp [accentedWord, plain, Pattern.isWordChar_of_parts (Pattern.parts_of_blank blank)]

theorem tokenize_tiled_names : Tiled accentedWord "ifs if<=\"é\""
      [⟨.name, "ifs", 0⟩, ⟨.keyword .ifWord, "if", 4⟩, ⟨.symbol .lessEqual, "<=", 6⟩,
        ⟨.string "é", "\"é\"", 8⟩, .endAt 12]
    ∧ Pattern.rules.length = 28 :=
  tokenize_tiled accentedWord_words rfl

end Scriptlet
