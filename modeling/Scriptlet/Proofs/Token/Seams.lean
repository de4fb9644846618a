/-
# Proofs.Token.Seams -- one text behind another

`Scanned` says which tokens a text is taken apart into, the end marker left out, and how
many rounds that takes is of no account (`tokenize_ok_iff`).

A semicolon is a seam.  No lexeme that ends before it would have gone on with it, so a
lexeme at the front of a text is the same with a semicolon and anything else behind the
text (`firstMatch?_seam`).  A quote that is never closed is no exception: nothing else
matches there, and such a text has no tokens.  Behind the seam all begins anew, and so the
tokens of both texts are the tokens of the whole (`tokenize_seam`).
-/
import Mathlib.Data.List.Basic
import Scriptlet.Token.Scan

namespace Scriptlet

set_option autoImplicit false

/-- The token as it stands so many bytes further on. -/
def Token.moved (distance : Nat) (token : Token) : Token :=
  { token with position := token.position + distance }

/-! ## Lexemes -/

namespace Pattern

variable {text lexeme rest : List Char} {pattern : Pattern}

theorem closeString?_spec (closed : closeString? text = some (lexeme, rest)) :
    lexeme ++ rest = text := by
  fun_induction closeString? text generalizing lexeme with
  | case1 => cases closed
  | case2 =>
      cases closed
      rfl
  | case3 => cases closed
  | case4 c others plain ih =>
      obtain ⟨split, inner, same⟩ := Option.map_eq_some_iff.mp closed
      cases same
      rw [List.cons_append, List.cons_append, ih inner]
  | case5 => cases closed
  | case6 c others _ _ plain ih =>
      obtain ⟨split, inner, same⟩ := Option.map_eq_some_iff.mp closed
      cases same
      rw [List.cons_append, ih inner]

theorem splitKeyword?_spec {word : Keyword}
    (found : splitKeyword? word text = some (lexeme, rest)) :
    lexeme ++ rest = text ∧ lexeme = word.spelling.toList := by
  unfold splitKeyword? at found
  split at found
  · rename_i behind prefixed
    split at found
    · cases found
      exact ⟨List.isPrefixOf?_eq_some_iff_append_eq.mp prefixed, rfl⟩
    · cases found
  · cases found

theorem splitNumber?_spec (found : splitNumber? text = some (lexeme, rest)) :
    lexeme ++ rest = text ∧ lexeme ≠ [] := by
  unfold splitNumber? at found
  have parts := List.takeWhile_append_dropWhile (p := Char.isDigit) (l := text)
  dsimp only at found
  split at found
  · rename_i behind point
    split at found
    · cases found
    · cases found
      refine ⟨?_, by simp⟩
      rw [point] at parts
      rw [List.append_assoc, List.cons_append, List.takeWhile_append_dropWhile, parts]
  · split at found
    · cases found
    · rename_i nonempty
      cases found
      exact ⟨parts, nonempty⟩

/-- A lexeme is not empty, and with what is left of the text makes up the text. -/
theorem split?_spec (found : pattern.split? text = some (lexeme, rest)) :
    lexeme ++ rest = text ∧ lexeme ≠ [] := by
  cases pattern with
  | blanks =>
      simp only [split?] at found
      split at found
      · cases found
      · rename_i nonempty
        cases found
        exact ⟨List.takeWhile_append_dropWhile, nonempty⟩
  | symbol sign =>
      obtain ⟨behind, prefixed, same⟩ := Option.map_eq_some_iff.mp found
      cases same
      refine ⟨List.isPrefixOf?_eq_some_iff_append_eq.mp prefixed, ?_⟩
      cases sign <;> decide
  | keyword =>
      obtain ⟨word, -, here⟩ := List.exists_of_findSome?_eq_some found
      obtain ⟨whole, rfl⟩ := splitKeyword?_spec here
      refine ⟨whole, ?_⟩
      cases word <;> decide
  | number => exact splitNumber?_spec found
  | string =>
      obtain _ | ⟨c, behind⟩ := text
      · cases found
      · by_cases quote : c = '"'
        · subst quote
          obtain ⟨split, closed, same⟩ := Option.map_eq_some_iff.mp found
          cases same
          exact ⟨congrArg _ (closeString?_spec closed), List.cons_ne_nil _ _⟩
        · simp [split?, quote] at found
  | name =>
      obtain _ | ⟨c, behind⟩ := text
      · cases found
      · simp only [split?] at found
        split at found
        · cases found
          refine ⟨?_, List.cons_ne_nil _ _⟩
          rw [List.cons_append, List.takeWhile_append_dropWhile]
        · cases found

/-! ## Lexemes before a semicolon -/

/-- The text behind a lexeme, with a semicolon and more behind it. -/
def behindSeam (more : List Char) (split : List Char × List Char) : List Char × List Char :=
  (split.1, split.2 ++ ';' :: more)

variable (more : List Char)

theorem takeWhile_seam {holds : Char → Bool} (stops : holds ';' = false) (text : List Char) :
    (text ++ ';' :: more).takeWhile holds = text.takeWhile holds := by
  induction text with
  | nil => simp [stops]
  | cons c text ih => simp only [List.cons_append, List.takeWhile_cons, ih]

theorem dropWhile_seam {holds : Char → Bool} (stops : holds ';' = false) (text : List Char) :
    (text ++ ';' :: more).dropWhile holds = text.dropWhile holds ++ ';' :: more := by
  induction text with
  | nil => simp [stops]
  | cons c text ih =>
      simp only [List.cons_append, List.dropWhile_cons, ih]
      split <;> rfl

theorem isPrefixOf?_seam {word : List Char} (plain : ';' ∉ word) (text : List Char) :
    word.isPrefixOf? (text ++ ';' :: more)
      = (word.isPrefixOf? text).map (· ++ ';' :: more) := by
  induction word generalizing text with
  | nil => rfl
  | cons c word ih =>
      rw [List.mem_cons, not_or] at plain
      obtain ⟨other, plain⟩ := plain
      cases text with
      | nil => simp [List.isPrefixOf?, Ne.symm other]
      | cons d text =>
          simp only [List.cons_append, List.isPrefixOf?, ih plain]
          split <;> rfl

theorem atBoundary_seam (text : List Char) :
    atBoundary (text ++ ';' :: more) = atBoundary text := by
  cases text with
  | nil => rfl
  | cons c text => rfl

theorem splitKeyword?_seam (word : Keyword) (text : List Char) :
    splitKeyword? word (text ++ ';' :: more)
      = (splitKeyword? word text).map (behindSeam more) := by
  have plain : ';' ∉ word.spelling.toList := by cases word <;> decide
  unfold splitKeyword?
  rw [isPrefixOf?_seam more plain]
  cases word.spelling.toList.isPrefixOf? text with
  | none => rfl
  | some rest =>
      simp only [Option.map_some, atBoundary_seam]
      split <;> rfl

theorem splitNumber?_seam (text : List Char) :
    splitNumber? (text ++ ';' :: more) = (splitNumber? text).map (behindSeam more) := by
  have stops : Char.isDigit ';' = false := rfl
  unfold splitNumber?
  rw [takeWhile_seam more stops, dropWhile_seam more stops]
  rcases text.dropWhile Char.isDigit with _ | ⟨c, rest⟩
  · by_cases nothing : text.takeWhile Char.isDigit = [] <;> simp [nothing, behindSeam]
  · by_cases point : c = '.'
    · subst point
      simp only [List.cons_append, takeWhile_seam more stops, dropWhile_seam more stops]
      split <;> rfl
    · by_cases nothing : text.takeWhile Char.isDigit = [] <;> simp [point, nothing, behindSeam]

theorem closeString?_plain {c : Char} (quote : c ≠ '"') (plain : c ≠ '\\') (rest : List Char) :
    closeString? (c :: rest) = (closeString? rest).map fun split => (c :: split.1, split.2) := by
  cases rest <;> simp [closeString?, plain]

theorem closeString?_seam {text : List Char} {split : List Char × List Char}
    (closed : closeString? text = some split) :
    closeString? (text ++ ';' :: more) = some (behindSeam more split) := by
  fun_induction closeString? text generalizing split with
  | case1 => cases closed
  | case2 =>
      cases closed
      rfl
  | case3 => cases closed
  | case4 c others plain ih =>
      obtain ⟨inner, there, rfl⟩ := Option.map_eq_some_iff.mp closed
      simp only [List.cons_append, closeString?, if_neg plain, ih there]
      rfl
  | case5 => cases closed
  | case6 c others quote pair plain ih =>
      obtain ⟨inner, there, rfl⟩ := Option.map_eq_some_iff.mp closed
      rw [List.cons_append, closeString?_plain quote plain, ih there]
      rfl

/-- Every lexeme at the front of a text is there with a semicolon behind the text as well, and no
others, if a quote at the front is closed. -/
theorem split?_seam (text : List Char) (nonempty : text ≠ [])
    (closes : ∀ rest, text = '"' :: rest → closeString? rest ≠ none) (pattern : Pattern) :
    pattern.split? (text ++ ';' :: more) = (pattern.split? text).map (behindSeam more) := by
  cases pattern with
  | blanks =>
      simp only [split?]
      rw [takeWhile_seam more rfl, dropWhile_seam more rfl]
      split <;> rfl
  | symbol sign =>
      obtain ⟨c, text, rfl⟩ := List.exists_cons_of_ne_nil nonempty
      obtain ⟨d, word, spelled, plain⟩ :
          ∃ d word, sign.spelling.toList = d :: word ∧ ';' ∉ word := by
        cases sign <;> exact ⟨_, _, rfl, by decide⟩
      simp only [split?, spelled, List.cons_append, List.isPrefixOf?, isPrefixOf?_seam more plain]
      split
      · rw [Option.map_map, Option.map_map]
        rfl
      · rfl
  | keyword =>
      simp only [split?, List.map_findSome?]
      exact congrArg (List.findSome? · _) (funext fun word => splitKeyword?_seam more word text)
  | number => exact splitNumber?_seam more text
  | string =>
      obtain ⟨c, text, rfl⟩ := List.exists_cons_of_ne_nil nonempty
      by_cases quote : c = '"'
      · subst quote
        cases closed : closeString? text with
        | none => exact absurd closed (closes text rfl)
        | some split => simp [split?, closeString?_seam more closed, closed, behindSeam]
      · simp [split?, quote]
  | name =>
      obtain ⟨c, text, rfl⟩ := List.exists_cons_of_ne_nil nonempty
      simp only [split?, List.cons_append]
      rw [takeWhile_seam more rfl, dropWhile_seam more rfl]
      split <;> rfl

/-- Nothing but a string begins with a quote. -/
theorem split?_quote (other : pattern ≠ .string) (text : List Char) :
    pattern.split? ('"' :: text) = none := by
  cases pattern with
  | blanks | name => rfl
  | symbol sign => cases sign <;> rfl
  | keyword => rfl
  | number => rfl
  | string => exact absurd rfl other

/-! ## What lexemes stand for -/

variable {position : Nat} {terminal? : Option Terminal}

/-- Where a lexeme stands does not matter to what it stands for. -/
theorem terminal?_elsewhere (decoded : pattern.terminal? lexeme position = .ok terminal?)
    (elsewhere : Nat) : pattern.terminal? lexeme elsewhere = .ok terminal? := by
  cases pattern with
  | number =>
      unfold Pattern.terminal? at decoded ⊢
      dsimp only at decoded ⊢
      split at decoded
      · exact decoded
      · cases decoded
  | _ => exact decoded

/-- No lexeme stands for the end marker. -/
theorem terminal?_ne_endMarker {terminal : Terminal}
    (decoded : pattern.terminal? lexeme position = .ok (some terminal)) :
    terminal ≠ .endMarker := by
  rintro rfl
  cases pattern with
  | number =>
      unfold Pattern.terminal? at decoded
      dsimp only at decoded
      split at decoded
      · rename_i terminal number
        cases decoded
        unfold numberTerminal? at number
        dsimp only at number
        split at number
        · cases whole : Integer.ofExact? (digitsValue (lexeme.takeWhile Char.isDigit)) <;>
            simp [whole] at number
        · cases number
      · cases decoded
  | keyword =>
      simp only [Pattern.terminal?, Except.ok.injEq] at decoded
      obtain ⟨word, -, impossible⟩ := Option.map_eq_some_iff.mp decoded
      cases impossible
  | blanks | symbol | string | name => cases decoded

end Pattern

section

variable {text lexeme rest : List Char} {pattern : Pattern}

theorem split?_of_firstMatch? (found : firstMatch? text = some (pattern, lexeme, rest)) :
    pattern.split? text = some (lexeme, rest) := by
  obtain ⟨tried, -, here⟩ := List.exists_of_findSome?_eq_some found
  obtain ⟨split, there, same⟩ := Option.map_eq_some_iff.mp here
  cases same
  exact there

/-- The lexeme at the front of a text is the same with a semicolon behind the text. -/
theorem firstMatch?_seam (found : firstMatch? text = some (pattern, lexeme, rest))
    (more : List Char) :
    firstMatch? (text ++ ';' :: more) = some (pattern, lexeme, rest ++ ';' :: more) := by
  have here := split?_of_firstMatch? found
  obtain ⟨whole, nonempty⟩ := Pattern.split?_spec here
  have text_nonempty : text ≠ [] := by
    rintro rfl
    exact nonempty (List.append_eq_nil_iff.mp whole).1
  have closes : ∀ inner, text = '"' :: inner → Pattern.closeString? inner ≠ none := by
    rintro inner rfl unclosed
    by_cases quoted : pattern = .string
    · rw [quoted, Pattern.split?, unclosed] at here
      cases here
    · rw [Pattern.split?_quote quoted] at here
      cases here
  have each (tried : Pattern) := Pattern.split?_seam more text text_nonempty closes tried
  have same : firstMatch? (text ++ ';' :: more)
      = (firstMatch? text).map fun found => (found.1, Pattern.behindSeam more found.2) := by
    simp only [firstMatch?, List.map_findSome?]
    refine congrArg (List.findSome? · Pattern.rules) (funext fun tried => ?_)
    simp only [Function.comp_apply, each tried, Option.map_map]
    rfl
  rw [same, found]
  rfl

end

/-! ## Scanned texts -/

/-- The bytes of some characters. -/
abbrev byteSize (text : List Char) : Nat := (String.ofList text).utf8ByteSize

/-- The tokens of a text that begins at a position, without the end marker. -/
inductive Scanned : Nat → List Char → List Token → Prop where
  | done {position : Nat} : Scanned position [] []
  | blank {position : Nat} {text lexeme rest : List Char} {pattern : Pattern}
      {tokens : List Token} :
      firstMatch? text = some (pattern, lexeme, rest) →
      pattern.terminal? lexeme position = .ok none →
      Scanned (position + byteSize lexeme) rest tokens → Scanned position text tokens
  | token {position : Nat} {text lexeme rest : List Char} {pattern : Pattern}
      {terminal : Terminal} {tokens : List Token} :
      firstMatch? text = some (pattern, lexeme, rest) →
      pattern.terminal? lexeme position = .ok (some terminal) →
      Scanned (position + byteSize lexeme) rest tokens →
      Scanned position text (⟨terminal, String.ofList lexeme, position⟩ :: tokens)

theorem byteSize_append (first second : List Char) :
    byteSize (first ++ second) = byteSize first + byteSize second := by
  rw [byteSize, String.ofList_append, String.utf8ByteSize_append]

namespace Scanned

variable {position : Nat} {text : List Char} {tokens : List Token}

/-- What a scan finds, however many rounds it is allowed. -/
theorem of_scan {rounds : Nat} {found : List Token}
    (scanned : scan rounds position text = .ok found) :
    ∃ tokens, found = tokens ++ [.endAt (position + byteSize text)]
      ∧ Scanned position text tokens := by
  induction rounds generalizing position text found with
  | zero =>
      cases text with
      | nil =>
          cases scanned
          exact ⟨[], rfl, .done⟩
      | cons c text => cases scanned
  | succ rounds ih =>
      obtain _ | ⟨c, text⟩ := text
      · cases scanned
        exact ⟨[], rfl, .done⟩
      · unfold scan at scanned
        split at scanned
        · cases scanned
        · rename_i pattern lexeme rest found
          obtain ⟨whole, -⟩ := Pattern.split?_spec (split?_of_firstMatch? found)
          split at scanned
          · cases scanned
          · rename_i terminal? decoded
            split at scanned
            · cases scanned
            · rename_i others further
              obtain ⟨tokens, rfl, inner⟩ := ih further
              rw [Nat.add_assoc, ← byteSize_append, whole] at scanned
              cases terminal? with
              | none =>
                  cases scanned
                  exact ⟨tokens, rfl, .blank found decoded inner⟩
              | some terminal =>
                  cases scanned
                  exact ⟨_ :: tokens, rfl, .token found decoded inner⟩

/-- A scan that is allowed a round for every character finds all tokens. -/
theorem scan_eq (scanned : Scanned position text tokens) {rounds : Nat}
    (enough : text.length ≤ rounds) :
    scan rounds position text = .ok (tokens ++ [.endAt (position + byteSize text)]) := by
  induction scanned generalizing rounds with
  | done => cases rounds <;> rfl
  | @blank position text lexeme rest pattern tokens found decoded _ ih
  | @token position text lexeme rest pattern terminal tokens found decoded _ ih =>
      obtain ⟨whole, nonempty⟩ := Pattern.split?_spec (split?_of_firstMatch? found)
      have shorter : 0 < lexeme.length := List.length_pos_iff.mpr nonempty
      have lengths := congrArg List.length whole
      rw [List.length_append] at lengths
      obtain ⟨rounds, rfl⟩ := Nat.exists_eq_add_one_of_ne_zero (show rounds ≠ 0 by omega)
      have further := ih (show rest.length ≤ rounds by omega)
      rw [Nat.add_assoc, ← byteSize_append, whole] at further
      obtain ⟨c, text, rfl⟩ := List.exists_cons_of_length_pos (show 0 < text.length by omega)
      rw [scan.eq_def]
      simp only [found, decoded, further, List.cons_append]

theorem unmarked (scanned : Scanned position text tokens) :
    ∀ token ∈ tokens, token.terminal ≠ .endMarker := by
  induction scanned with
  | done => exact nofun
  | blank _ _ _ ih => exact ih
  | token _ decoded _ ih =>
      exact List.forall_mem_cons.mpr ⟨Pattern.terminal?_ne_endMarker decoded, ih⟩

/-- A text that stands further on has the same tokens further on. -/
theorem moved (scanned : Scanned position text tokens) (distance : Nat) :
    Scanned (position + distance) text (tokens.map (Token.moved distance)) := by
  induction scanned with
  | done => exact .done
  | blank found decoded _ ih =>
      refine .blank found (Pattern.terminal?_elsewhere decoded _) ?_
      rwa [Nat.add_right_comm]
  | token found decoded _ ih =>
      refine .token found (Pattern.terminal?_elsewhere decoded _) ?_
      rwa [Nat.add_right_comm]

/-- The tokens of two texts with a semicolon between them. -/
theorem seam (scanned : Scanned position text tokens) {more : List Char} {others : List Token}
    (further : Scanned (position + byteSize text + 1) more others) :
    Scanned position (text ++ ';' :: more)
      (tokens ++ ⟨.symbol .semicolon, ";", position + byteSize text⟩ :: others) := by
  induction scanned with
  | done =>
      have sign : firstMatch? (';' :: more) = some (.symbol .semicolon, [';'], more) := rfl
      exact .token sign rfl further
  | @blank position text lexeme rest pattern tokens found decoded _ ih =>
      obtain ⟨whole, -⟩ := Pattern.split?_spec (split?_of_firstMatch? found)
      refine .blank (firstMatch?_seam found more) decoded ?_
      rw [← whole, byteSize_append, ← Nat.add_assoc] at further ⊢
      exact ih further
  | @token position text lexeme rest pattern terminal tokens found decoded _ ih =>
      obtain ⟨whole, -⟩ := Pattern.split?_spec (split?_of_firstMatch? found)
      refine .token (firstMatch?_seam found more) decoded ?_
      rw [← whole, byteSize_append, ← Nat.add_assoc] at further ⊢
      exact ih further

end Scanned

theorem tokenize_ok_iff {text : String} {found : List Token} :
    tokenize text = .ok found
      ↔ ∃ tokens, found = tokens ++ [.endAt text.utf8ByteSize] ∧ Scanned 0 text.toList tokens := by
  have size : 0 + byteSize text.toList = text.utf8ByteSize := by
    rw [Nat.zero_add, byteSize, String.ofList_toList]
  constructor
  · intro scanned
    obtain ⟨tokens, rfl, inner⟩ := Scanned.of_scan scanned
    exact ⟨tokens, by rw [size], inner⟩
  · rintro ⟨tokens, rfl, inner⟩
    rw [tokenize, inner.scan_eq (Nat.le_of_eq String.length_toList), size]

/-- **The tokens of two texts with a semicolon between them** are those of the first, the semicolon,
and those of the second where they now stand. -/
theorem tokenize_seam {first second : String} {tokens others : List Token}
    (scanned : Scanned 0 first.toList tokens) (further : Scanned 0 second.toList others) :
    tokenize (first ++ ";" ++ second)
      = .ok (tokens ++ ⟨.symbol .semicolon, ";", first.utf8ByteSize⟩
          :: others.map (Token.moved (first.utf8ByteSize + 1))
        ++ [.endAt (first ++ ";" ++ second).utf8ByteSize]) := by
  refine tokenize_ok_iff.mpr ⟨_, rfl, ?_⟩
  have size : 0 + byteSize first.toList = first.utf8ByteSize := by
    rw [Nat.zero_add, byteSize, String.ofList_toList]
  have joined : (first ++ ";" ++ second).toList = first.toList ++ ';' :: second.toList := by
    simp
  have moved := further.moved (first.utf8ByteSize + 1)
  rw [Nat.zero_add, ← size] at moved
  rw [joined, ← size]
  exact scanned.seam moved

end Scriptlet
