/-
# Proofs.Places -- a position means a place of the text

A position counts bytes, and it is handed on from the scan through tokens into names and into the
reports of errors.  Wherever it arrives it is still the place that it says.  A text that is
refused is refused at a character boundary, with the very lexeme in quotes that stands there if one
is found (`Found.Truthful`, `SyntaxError.Truthful`), and the line and the column that are told
instead are those of this place (`Location.ofOffset_append`).  And each name in the tree of a text
has a place, at which the text has that name as a token of its own (`positions_truthful`).
-/
import Scriptlet.Proofs.Grammar.Origins
import Scriptlet.Proofs.Sessions
import Scriptlet.Proofs.Token.Failures

namespace Scriptlet

set_option autoImplicit false

/-! ## Places -/

/-- Behind so many bytes of the text stands this lexeme. -/
def Stands (text lexeme : String) (position : Nat) : Prop :=
  ∃ before after, text = before ++ lexeme ++ after ∧ position = before.utf8ByteSize

/-- The position is a character boundary of the text, its end perhaps. -/
abbrev IsPlace (text : String) (position : Nat) : Prop :=
  (String.Pos.Raw.mk position).IsValid text

theorem isPlace_iff {text : String} {position : Nat} :
    IsPlace text position ↔ ∃ before after, text = before ++ after
      ∧ position = before.utf8ByteSize := by
  rw [IsPlace, String.Pos.Raw.isValid_iff_exists_append]
  simp only [String.Pos.Raw.ext_iff, String.byteIdx_rawEndPos]

theorem Stands.isPlace {text lexeme : String} {position : Nat}
    (stands : Stands text lexeme position) : IsPlace text position := by
  obtain ⟨before, after, rfl, rfl⟩ := stands
  exact isPlace_iff.mpr ⟨before, lexeme ++ after, String.append_assoc, rfl⟩

/-- What is reported as found at a position of the text is there: the end of the text, or in quotes
the lexeme of one of its tokens. -/
inductive Found.Truthful (text : String) (position : Nat) (found : Found) : Prop where
  | ended : found.describe = "end of input" → position = text.utf8ByteSize →
      Truthful text position found
  | token {tokens : List Token} {token : Token} :
      tokenize text = .ok tokens → token ∈ tokens → token.terminal ≠ .endMarker →
      found.describe = "'" ++ token.lexeme ++ "'" → token.position = position →
      Stands text token.lexeme position → Truthful text position found

/-- What the report of an error says about the text is so: nothing is promised of the character
at which no lexeme begins, and any lexeme that is quoted stands where it is said to. -/
def SyntaxError.Truthful (text : String) (error : SyntaxError) : Prop :=
  match error with
  | unexpectedCharacter _ => True
  | invalidNumber lexeme _ => Stands text lexeme error.position
  | unexpected _ found _ => found.Truthful text error.position

/-- What is found is at a character boundary. -/
theorem Found.Truthful.isPlace {text : String} {position : Nat} {found : Found}
    (truthful : found.Truthful text position) : IsPlace text position := by
  cases truthful with
  | ended _ last => exact isPlace_iff.mpr ⟨text, "", by simp, last⟩
  | token _ _ _ _ _ stands => exact stands.isPlace

/-! ## Locations -/

namespace Location

/-- The location behind some text: on the line that its line feeds have begun, and behind the
characters since the last one of them. -/
def behind (before : String) : Location :=
  ⟨before.toList.count '\n' + 1, (before.toList.reverse.takeWhile (· ≠ '\n')).length + 1⟩

theorem behind_push (before : String) (c : Char) :
    behind (before.push c) = (behind before).after c := by
  simp only [behind, String.toList_push, List.count_append, List.reverse_append,
    List.reverse_singleton, List.singleton_append, List.takeWhile_cons, after]
  by_cases feed : c = '\n'
  · subst feed
    simp
  · simp [feed]

theorem foldl_after (characters : List Char) (before : String) :
    characters.foldl after (behind before) = behind (before ++ String.ofList characters) := by
  induction characters generalizing before with
  | nil => simp
  | cons c characters ih =>
      rw [List.foldl_cons, ← behind_push, ih]
      refine congrArg behind (String.toList_injective ?_)
      simp

theorem advance_append (here : Location) (before after : List Char) :
    here.advance (byteSize before) (before ++ after) = before.foldl Location.after here := by
  induction before generalizing here with
  | nil => cases after <;> rfl
  | cons c before ih =>
      have size : byteSize (c :: before) = c.utf8Size + byteSize before := by
        simp [byteSize]
      have nonzero : byteSize (c :: before) ≠ 0 :=
        Nat.ne_of_gt (byteSize_pos (List.cons_ne_nil c before))
      rw [List.cons_append, advance]
      · rw [size, Nat.add_sub_cancel_left]
        exact ih _
      · exact nonzero

/-- The location of an offset is the one behind as many bytes of the text. -/
theorem ofOffset_append (before after : String) :
    ofOffset (before ++ after) before.utf8ByteSize = behind before := by
  rw [ofOffset, String.toList_append, ← byteSize_toList, advance_append]
  exact (foldl_after before.toList "").trans (by simp)

end Location

/-! ## Tokens -/

/-- A token of a text stands where it says. -/
theorem Scanned.stands {text : String} {tokens : List Token}
    (scanned : Scanned 0 text.toList tokens) {token : Token} (among : token ∈ tokens) :
    Stands text token.lexeme token.position := by
  obtain ⟨before, rest, pattern, others, whole, place, -⟩ := scanned.cut among
  refine ⟨String.ofList before, String.ofList rest, ?_, ?_⟩
  · apply String.toList_injective
    simpa using whole
  · rw [place, Nat.zero_add]

/-- A text without tokens fails at a character boundary, with the number that stands there if it is
for a number. -/
theorem tokenize_error {text : String} {error : SyntaxError}
    (failed : tokenize text = .error error) :
    IsPlace text error.position ∧ error.Truthful text := by
  obtain ⟨position, left, reaches, fault⟩ := (tokenize_error_iff Pattern.isWordChar).mp failed
  obtain ⟨before, whole, rfl⟩ := reaches.split
  cases fault with
  | stray =>
      refine ⟨isPlace_iff.mpr ⟨String.ofList before, String.ofList left, ?_, rfl⟩, trivial⟩
      apply String.toList_injective
      simpa using whole
  | @tooLarge digits rest =>
      have stands : Stands text (String.ofList digits) (byteSize before) := by
        refine ⟨String.ofList before, String.ofList rest, ?_, rfl⟩
        apply String.toList_injective
        simpa using whole
      exact ⟨stands.isPlace, stands⟩

namespace Session

/-- A text that is not read is refused truthfully. -/
theorem read_error {text : String} {error : SyntaxError} (failed : read text = .error error) :
    IsPlace text error.position ∧ error.Truthful text := by
  unfold read at failed
  cases scanned : tokenize text with
  | error blamed =>
      rw [scanned] at failed
      cases failed
      exact tokenize_error scanned
  | ok found =>
      rw [scanned] at failed
      obtain ⟨tokens, rfl, inner⟩ := tokenize_ok_iff.mp scanned
      obtain ⟨token, among, blames⟩ := Grammar.blames_of_parse rfl failed
      rcases List.mem_append.mp among with inside | last
      · cases blames with
        | marker _ ends => exact absurd ends (inner.unmarked token inside)
        | lexeme expected plain =>
            have found : (Found.lexeme token.lexeme).Truthful text token.position :=
              .token scanned among plain rfl rfl (inner.stands inside)
            exact ⟨found.isPlace, found⟩
      · obtain rfl := List.mem_singleton.mp last
        cases blames with
        | marker expected _ =>
            have found : Found.endOfInput.Truthful text text.utf8ByteSize := .ended rfl rfl
            exact ⟨found.isPlace, found⟩
        | lexeme _ plain => exact absurd rfl plain

/-- A text that is no program is refused at a place of its own, which its location names. -/
theorem location_of_error {text : String} {error : SyntaxError}
    (failed : read text = .error error) :
    ∃ before after, text = before ++ after ∧ error.position = before.utf8ByteSize
      ∧ Location.ofOffset text error.position = .behind before := by
  obtain ⟨before, after, rfl, place⟩ := isPlace_iff.mp (read_error failed).1
  exact ⟨before, after, rfl, place, by rw [place, Location.ofOffset_append]⟩

theorem read_of_refused {text : String} {rounds : Nat} {limits : Limits} {environment : Environment}
    {transcript : Transcript} {error : SyntaxError}
    (ran : run rounds limits text environment = some transcript)
    (refused : transcript.ending = .refused error) : read text = .error error := by
  cases reads : read text with
  | error blamed =>
      unfold run at ran
      rw [reads] at ran
      cases ran
      exact congrArg Except.error (Ending.refused.inj refused)
  | ok tree =>
      rw [run_of_read reads] at ran
      cases outcome : Evaluation.evaluate limits rounds tree (.start environment) <;>
        rw [outcome] at ran <;>
        cases ran <;>
        cases refused

/-- **Positions are truthful.**  If a text is refused, it is at a character boundary, and what the
report says of the text there is so.  If it is read, each name in its tree has a place, and there
the text has a token that is this very name. -/
theorem positions_truthful (text : String) :
    (∀ rounds limits environment transcript error,
      run rounds limits text environment = some transcript →
      transcript.ending = .refused error → IsPlace text error.position ∧ error.Truthful text)
    ∧ ∀ tree, read text = .ok tree → ∃ tokens, tokenize text = .ok tokens
      ∧ ∀ name ∈ tree.labels, ∃ position, name.position = some position
        ∧ Stands text name.text position ∧ ⟨.name, name.text, position⟩ ∈ tokens := by
  refine ⟨fun rounds limits environment transcript error ran refused => ?_, fun tree reads => ?_⟩
  · exact read_error (read_of_refused ran refused)
  · obtain ⟨found, scanned, parsed⟩ := read_ok_iff.mp reads
    obtain ⟨tokens, rfl, inner⟩ := tokenize_ok_iff.mp scanned
    refine ⟨_, scanned, fun name among => ?_⟩
    rw [Grammar.labels_of_parse inner.unmarked parsed] at among
    obtain ⟨token, filtered, rfl⟩ := List.mem_map.mp among
    obtain ⟨inside, named⟩ := List.mem_filter.mp filtered
    refine ⟨token.position, rfl, inner.stands inside, List.mem_append_left _ ?_⟩
    rw [Token.named, ← of_decide_eq_true named]
    exact inside

/-- A name where a program could end, and names in a call, each behind a letter of two bytes. -/
theorem positions_truthful_accents :
    (∃ transcript, run 9 .default "x = \"é\" y" .new = some transcript
      ∧ transcript.ending = .refused (.unexpected .endOfInput (.lexeme "y") 9)
      ∧ IsPlace "x = \"é\" y" 9 ∧ (Found.lexeme "y").describe = "'y'"
      ∧ (SyntaxError.unexpected .endOfInput (.lexeme "y") 9).Truthful "x = \"é\" y")
    ∧ ∃ tree, read "\"é\";f(x)" = .ok tree ∧ tree.labels = [⟨"f", some 5⟩, ⟨"x", some 7⟩]
      ∧ Stands "\"é\";f(x)" "x" 7 := by
  have refused : read "x = \"é\" y" = .error (.unexpected .endOfInput (.lexeme "y") 9) :=
    @read_of_tokenize _ [⟨.name, "x", 0⟩, ⟨.symbol .equal, "=", 2⟩, ⟨.string "é", "\"é\"", 4⟩,
      ⟨.name, "y", 9⟩, .endAt 10] (by rfl)
  have ran : run 9 .default "x = \"é\" y" .new
      = some ⟨.refused (.unexpected .endOfInput (.lexeme "y") 9), "", .new⟩ := by
    unfold run
    rw [refused]
  have reads : read "\"é\";f(x)" = .ok (.program [.string "é",
      .call (.identifier ⟨"f", some 5⟩) [.identifier ⟨"x", some 7⟩]]) :=
    @read_of_tokenize _ [⟨.string "é", "\"é\"", 0⟩, ⟨.symbol .semicolon, ";", 4⟩, ⟨.name, "f", 5⟩,
      ⟨.symbol .leftParen, "(", 6⟩, ⟨.name, "x", 7⟩, ⟨.symbol .rightParen, ")", 8⟩, .endAt 9]
      (by rfl)
  obtain ⟨place, truthful⟩ := (positions_truthful _).1 _ _ _ _ _ ran rfl
  obtain ⟨tokens, -, named⟩ := (positions_truthful _).2 _ reads
  obtain ⟨position, same, stands, -⟩ := named ⟨"x", some 7⟩ (.tail _ (.head _))
  obtain rfl := Option.some.inj same
  exact ⟨⟨_, ran, rfl, place, rfl, truthful⟩, _, reads, rfl, stands⟩

end Session

end Scriptlet
