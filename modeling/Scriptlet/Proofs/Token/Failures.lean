/-
# Proofs.Token.Failures -- where a text has no tokens

The scan of a text takes it lexeme by lexeme, always the longest that any pattern matches
(`Reaches`).  It fails at the first place at which no lexeme begins, or at which some digits are too
large for an integer, and nowhere else (`tokenize_error_iff`).

What no lexeme begins is said of the characters there (`Stray`): a quote that is never closed, one
half of a double sign, a point without a digit, or a character that begins nothing at all.
-/
import Scriptlet.Proofs.Token.Phrases

namespace Scriptlet

set_option autoImplicit false

/-! ## What no lexeme begins -/

/-- Whether the character behind so much of a string is escaped: a backslash stands directly before
it that is not escaped itself. -/
def escaped (before : List Char) : Bool := before.foldl (fun held c => !held && c == '\\') false

/-- Behind an opening quote a quote follows that is not escaped, and before it no backslash that is
not escaped stands directly before a line feed. -/
def Closes (body : List Char) : Prop :=
  ∃ before rest, body = before ++ '"' :: rest ∧ escaped before = false
    ∧ ∀ front behind, before = front ++ '\\' :: '\n' :: behind → escaped front = true

/-- The texts that no lexeme begins. -/
inductive Stray : List Char → Prop where
  | openQuote {body : List Char} : ¬ Closes body → Stray ('"' :: body)
  | single {c : Char} {rest : List Char} :
      c = '&' ∨ c = '|' → rest.head? ≠ some c → Stray (c :: rest)
  | point {rest : List Char} : Boundary Char.isDigit rest → Stray ('.' :: rest)
  | foreign {c : Char} {rest : List Char} : c ≠ '"' → c ≠ '.' → Text.isBlank c = false →
      Pattern.isWordChar c = false → (∀ sign : Symbol, sign.spelling.toList.head? ≠ some c) →
      Stray (c :: rest)

variable {c : Char} {text body lexeme rest digits : List Char} {pattern : Pattern}

theorem escaped_plain (plain : c ≠ '\\') (before : List Char) :
    escaped (c :: before) = escaped before := by
  have none : (c == '\\') = false := beq_false_of_ne plain
  simp only [escaped, List.foldl_cons, Bool.not_false, Bool.true_and, none]

theorem escaped_pair (c : Char) (before : List Char) :
    escaped ('\\' :: c :: before) = escaped before := by
  simp [escaped]

/-! ## Quotes that are closed -/

theorem closes_quote (body : List Char) : Closes ('"' :: body) :=
  ⟨[], body, rfl, rfl, fun front _ split => by simp at split⟩

theorem not_closes_nil : ¬ Closes [] := by
  rintro ⟨before, rest, whole, -⟩
  simp at whole

theorem not_closes_backslash : ¬ Closes ['\\'] := by
  rintro ⟨_ | ⟨c, before⟩, rest, whole, -⟩
  · cases whole
  · simp at whole

theorem not_closes_feed (body : List Char) : ¬ Closes ('\\' :: '\n' :: body) := by
  rintro ⟨_ | ⟨c, _ | ⟨d, before⟩⟩, rest, whole, -, feeds⟩
  · cases whole
  · cases whole
  · simp only [List.cons_append, List.cons.injEq] at whole
    obtain ⟨rfl, rfl, -⟩ := whole
    cases feeds [] before rfl

theorem closes_plain (quote : c ≠ '"') (plain : c ≠ '\\') :
    Closes (c :: body) ↔ Closes body := by
  constructor
  · rintro ⟨_ | ⟨d, before⟩, rest, whole, bare, feeds⟩
    · exact absurd (List.head_eq_of_cons_eq whole) quote
    · obtain ⟨rfl, rfl⟩ := List.cons.inj whole
      rw [escaped_plain plain] at bare
      refine ⟨before, rest, rfl, bare, fun front behind split => ?_⟩
      rw [← escaped_plain plain]
      exact feeds (c :: front) behind (by rw [split]; rfl)
  · rintro ⟨before, rest, rfl, bare, feeds⟩
    refine ⟨c :: before, rest, rfl, (escaped_plain plain before).trans bare, ?_⟩
    rintro (_ | ⟨d, front⟩) behind split
    · exact absurd (List.head_eq_of_cons_eq split) plain
    · obtain ⟨rfl, rfl⟩ := List.cons.inj split
      rw [escaped_plain plain]
      exact feeds front behind rfl

theorem closes_pair (feed : c ≠ '\n') : Closes ('\\' :: c :: body) ↔ Closes body := by
  constructor
  · rintro ⟨_ | ⟨d, _ | ⟨e, before⟩⟩, rest, whole, bare, feeds⟩
    · cases whole
    · simp only [List.cons_append, List.cons.injEq] at whole
      obtain ⟨rfl, -⟩ := whole
      cases bare
    · simp only [List.cons_append, List.cons.injEq] at whole
      obtain ⟨rfl, rfl, rfl⟩ := whole
      rw [escaped_pair] at bare
      refine ⟨before, rest, rfl, bare, fun front behind split => ?_⟩
      rw [← escaped_pair c]
      exact feeds ('\\' :: c :: front) behind (by rw [split]; rfl)
  · rintro ⟨before, rest, rfl, bare, feeds⟩
    refine ⟨'\\' :: c :: before, rest, rfl, (escaped_pair c before).trans bare, ?_⟩
    rintro (_ | ⟨d, _ | ⟨e, front⟩⟩) behind split
    · simp only [List.nil_append, List.cons.injEq] at split
      exact absurd split.2.1 feed
    · simp only [List.cons_append, List.cons.injEq] at split
      obtain ⟨rfl, -⟩ := split
      rfl
    · simp only [List.cons_append, List.cons.injEq] at split
      obtain ⟨rfl, rfl, rfl⟩ := split
      rw [escaped_pair]
      exact feeds front behind rfl

/-- The string after an opening quote is found if the quote is closed. -/
theorem closeString?_eq_none_iff : Pattern.closeString? text = none ↔ ¬ Closes text := by
  fun_induction Pattern.closeString? text with
  | case1 => simp [not_closes_nil]
  | case2 rest => simp [closes_quote rest]
  | case3 rest => simp [not_closes_feed rest]
  | case4 c rest feed ih => rw [Option.map_eq_none_iff, ih, closes_pair feed]
  | case5 rest _ alone =>
      cases rest with
      | nil => simp [not_closes_backslash]
      | cons c rest => exact absurd rfl (alone c rest rfl)
  | case6 c rest quote pair plain ih => rw [Option.map_eq_none_iff, ih, closes_plain quote plain]

theorem closes_of_stringBody (inside : StringBody body) : Closes (body ++ '"' :: rest) := by
  by_contra open_quote
  rw [← closeString?_eq_none_iff, Pattern.closeString?_of_stringBody inside] at open_quote
  cases open_quote

/-! ## Characters that begin nothing -/

namespace Pattern

/-- The first characters of lexemes. -/
theorem Matches.begins {isWord : Char → Bool}
    (matching : pattern.Matches isWord (c :: lexeme) rest) :
    Text.isBlank c = true ∨ isWordChar c = true ∨ c = '.' ∨ c = '"'
      ∨ ∃ sign : Symbol, sign.spelling.toList.head? = some c := by
  generalize shape : c :: lexeme = whole at matching
  cases matching with
  | blanks nonempty blank =>
      subst shape
      exact .inl (blank c List.mem_cons_self)
  | symbol sign => exact .inr (.inr (.inr (.inr ⟨sign, by rw [← shape]; rfl⟩)))
  | keyword word =>
      exact .inr (.inl (isWordChar_of_keyword word c (shape ▸ List.mem_cons_self)))
  | whole nonempty digits =>
      subst shape
      have digit := digits c List.mem_cons_self
      exact .inr (.inl (by simp [isWordChar_eq, digit]))
  | @pointBehind whole behind _ nonempty digits more =>
      obtain ⟨d, others, rfl⟩ := List.exists_cons_of_ne_nil nonempty
      obtain ⟨rfl, -⟩ := List.cons.inj shape
      have digit := digits c List.mem_cons_self
      exact .inr (.inl (by simp [isWordChar_eq, digit]))
  | pointFirst => exact .inr (.inr (.inl (List.cons.inj shape).1))
  | string => exact .inr (.inr (.inr (.inl (List.cons.inj shape).1)))
  | name start =>
      obtain ⟨rfl, -⟩ := List.cons.inj shape
      exact .inr (.inl (by simp [isWordChar_eq, start]))

end Pattern

/-- A sign that begins with one half of a double sign is that double sign. -/
theorem double_of_head {sign : Symbol} (half : c = '&' ∨ c = '|')
    (first : sign.spelling.toList.head? = some c) : sign.spelling.toList = [c, c] := by
  rcases half with rfl | rfl <;> revert first <;> cases sign <;> decide

/-- Every other character that begins a sign is one by itself. -/
theorem single_of_head {sign : Symbol} (first : sign.spelling.toList.head? = some c)
    (whole : ¬ (c = '&' ∨ c = '|')) : ∃ single : Symbol, single.spelling.toList = [c] := by
  by_cases alone : sign.spelling.toList = [c]
  · exact ⟨sign, alone⟩
  · cases sign <;> simp [Symbol.spelling] at first alone <;> subst first
    case andAnd | orOr => simp at whole
    case equalEqual => exact ⟨.equal, rfl⟩
    case notEqual => exact ⟨.exclamation, rfl⟩
    case lessEqual => exact ⟨.less, rfl⟩
    case greaterEqual => exact ⟨.greater, rfl⟩
    all_goals cases alone rfl

theorem Stray.ne_nil (stray : Stray text) : text ≠ [] := by cases stray <;> nofun

/-- No lexeme begins a stray text. -/
theorem Stray.unmatched (stray : Stray (lexeme ++ rest)) :
    ¬ pattern.Matches Pattern.isWordChar lexeme rest := by
  intro matching
  obtain ⟨c, more, rfl⟩ := List.exists_cons_of_ne_nil matching.nonempty
  have fronts := matching.frontOf_eq
  cases stray with
  | openQuote unclosed =>
      cases Pattern.eq_string fronts.symm
      generalize shape : '"' :: more = spelled at matching
      cases matching with
      | @string body _ inside =>
          obtain ⟨-, rfl⟩ := List.cons.inj shape
          have closes := @closes_of_stringBody body rest inside
          exact unclosed (by simpa using closes)
  | single half alone =>
      obtain ⟨sign, rfl⟩ : ∃ sign, pattern = .symbol sign :=
        Pattern.eq_symbol (fronts.symm.trans (by rcases half with rfl | rfl <;> rfl))
      generalize shape : c :: more = spelled at matching
      cases matching with
      | symbol =>
          rw [double_of_head half (by rw [← shape]; rfl)] at shape
          obtain ⟨-, rfl⟩ := List.cons.inj shape
          exact alone rfl
  | point ends =>
      cases Pattern.eq_number fronts.symm
      generalize shape : '.' :: more = spelled at matching
      cases matching with
      | whole _ digits =>
          subst shape
          cases digits '.' List.mem_cons_self
      | @pointBehind whole behind _ nonempty digits =>
          obtain ⟨d, others, rfl⟩ := List.exists_cons_of_ne_nil nonempty
          obtain ⟨rfl, -⟩ := List.cons.inj shape
          cases digits '.' List.mem_cons_self
      | pointFirst nonempty digits =>
          obtain ⟨-, rfl⟩ := List.cons.inj shape
          obtain ⟨d, others, rfl⟩ := List.exists_cons_of_ne_nil nonempty
          have digit := digits d List.mem_cons_self
          rw [ends d rfl] at digit
          cases digit
  | foreign quote point blank word signs =>
      obtain blank' | word' | point' | quote' | ⟨sign, first⟩ := matching.begins
      · rw [blank] at blank'
        cases blank'
      · rw [word] at word'
        cases word'
      · exact point point'
      · exact quote quote'
      · exact signs sign first

/-- What no lexeme begins is stray. -/
theorem stray_of_unmatched (nonempty : text ≠ [])
    (unmatched : ∀ pattern lexeme rest, lexeme ++ rest = text →
      ¬ Pattern.Matches Pattern.isWordChar pattern lexeme rest) : Stray text := by
  obtain ⟨c, rest, rfl⟩ := List.exists_cons_of_ne_nil nonempty
  by_cases quote : c = '"'
  · subst quote
    refine .openQuote fun closes => ?_
    obtain ⟨split, closed⟩ := Option.ne_none_iff_exists'.mp fun nothing =>
      closeString?_eq_none_iff.mp nothing closes
    obtain ⟨body, shape, inside⟩ := Pattern.stringBody_of_closeString? closed
    refine unmatched .string ('"' :: split.1) split.2 ?_ (shape ▸ .string inside)
    rw [List.cons_append, Pattern.closeString?_spec closed]
  by_cases half : c = '&' ∨ c = '|'
  · refine .single half fun first => ?_
    obtain ⟨rest, rfl⟩ := List.head?_eq_some_iff.mp first
    rcases half with rfl | rfl
    · exact unmatched (.symbol .andAnd) ['&', '&'] rest rfl (.symbol .andAnd)
    · exact unmatched (.symbol .orOr) ['|', '|'] rest rfl (.symbol .orOr)
  by_cases point : c = '.'
  · subst point
    refine .point fun d first => Bool.eq_false_iff.mpr fun digit => ?_
    obtain ⟨rest, rfl⟩ := List.head?_eq_some_iff.mp first
    exact unmatched .number ['.', d] rest rfl (.pointFirst (by simp) (by simpa using digit))
  refine .foreign quote point (Bool.eq_false_iff.mpr fun blank => ?_)
    (Bool.eq_false_iff.mpr fun word => ?_) fun sign first => ?_
  · exact unmatched .blanks [c] rest rfl (.blanks (by simp) (by simpa using blank))
  · rw [Pattern.isWordChar_eq, Bool.or_eq_true] at word
    rcases word with start | digit
    · exact unmatched .name [c] rest rfl (.name start (by simp))
    · exact unmatched .number [c] rest rfl (.whole (by simp) (by simpa using digit))
  · obtain ⟨single, spelled⟩ := single_of_head first half
    exact unmatched (.symbol single) [c] rest rfl (spelled ▸ .symbol single)

/-- **A lexeme begins every text that is not stray.** -/
theorem firstMatch?_eq_none_iff_stray (nonempty : text ≠ []) :
    firstMatch? text = none ↔ Stray text := by
  rw [Pattern.firstMatch?_eq_none_iff]
  constructor
  · exact stray_of_unmatched nonempty
  · rintro stray pattern lexeme rest rfl
    exact stray.unmatched

/-! ## The longest lexeme -/

/-- A lexeme is the longest of all that patterns match at the front of the text that it makes up
with `rest`. -/
structure Longest (isWord : Char → Bool) (lexeme rest : List Char) : Prop where
  here : ∃ pattern : Pattern, pattern.Matches isWord lexeme rest
  longest : ∀ (other : Pattern) longer left, longer ++ left = lexeme ++ rest →
    other.Matches isWord longer left → longer.length ≤ lexeme.length

/-- Which characters go on with a word decides between keywords and names only. -/
theorem Pattern.Matches.anyhow {isWord : Char → Bool} (inWord : Char → Bool)
    (matching : pattern.Matches isWord lexeme rest) :
    ∃ other : Pattern, other.Matches inWord lexeme rest := by
  cases matching with
  | keyword word =>
      obtain ⟨c, more, spelled, start⟩ := isWordStart_of_keyword word
      have all := isWordChar_of_keyword word
      rw [spelled] at all ⊢
      exact ⟨.name, .name start fun d among => all d (List.mem_cons_of_mem c among)⟩
  | blanks nonempty blank => exact ⟨_, .blanks nonempty blank⟩
  | symbol sign => exact ⟨_, .symbol sign⟩
  | whole nonempty digits => exact ⟨_, .whole nonempty digits⟩
  | pointBehind nonempty digits more => exact ⟨_, .pointBehind nonempty digits more⟩
  | pointFirst nonempty digits => exact ⟨_, .pointFirst nonempty digits⟩
  | string inside => exact ⟨_, .string inside⟩
  | name start word => exact ⟨_, .name start word⟩

theorem Longest.anyhow {isWord : Char → Bool} (inWord : Char → Bool)
    (longest : Longest isWord lexeme rest) : Longest inWord lexeme rest := by
  obtain ⟨pattern, here⟩ := longest.here
  refine ⟨here.anyhow inWord, fun other longer left same matching => ?_⟩
  obtain ⟨another, also⟩ := matching.anyhow isWord
  exact longest.longest another longer left same also

/-- The longest lexeme is the one that is taken. -/
theorem longest_iff {isWord : Char → Bool} : Longest isWord lexeme rest
    ↔ ∃ pattern, firstMatch? (lexeme ++ rest) = some (pattern, lexeme, rest) := by
  constructor
  · intro longest
    obtain ⟨⟨pattern, here⟩, longest⟩ := longest.anyhow Pattern.isWordChar
    cases found : firstMatch? (lexeme ++ rest) with
    | none => exact absurd here (Pattern.firstMatch?_eq_none_iff.mp found pattern lexeme rest rfl)
    | some split =>
        obtain ⟨taken, longer, left⟩ := split
        have munches := Pattern.munches_of_firstMatch? found
        have same := (Pattern.split?_spec (split?_of_firstMatch? found)).1
        have no_more := longest taken longer left same munches.here
        have no_less := munches.longest pattern (Pattern.mem_rules pattern) lexeme rest same.symm
          here
        obtain ⟨rfl, rfl⟩ := List.append_inj same (Nat.le_antisymm no_more no_less)
        exact ⟨taken, rfl⟩
  · rintro ⟨pattern, found⟩
    have munches := Pattern.munches_of_firstMatch? found
    have longest : Longest Pattern.isWordChar lexeme rest :=
      ⟨⟨pattern, munches.here⟩, fun other => munches.longest other (Pattern.mem_rules other)⟩
    exact longest.anyhow isWord

/-! ## Numbers -/

/-- Digits that are no number of the language. -/
def TooLarge (lexeme : List Char) : Prop :=
  (∀ c ∈ lexeme, c.isDigit = true) ∧ 9223372036854775807 < Pattern.digitsValue lexeme

/-- All digits at the front of a text, without a point behind them. -/
structure WholeNumber (digits rest : List Char) : Prop where
  nonempty : digits ≠ []
  decimal : ∀ c ∈ digits, c.isDigit = true
  ends : ∀ c, rest.head? = some c → c.isDigit = false ∧ c ≠ '.'

/-- Digits before and behind a point, and one at least. -/
structure PointNumber (whole behind rest : List Char) : Prop where
  before : ∀ c ∈ whole, c.isDigit = true
  decimal : ∀ c ∈ behind, c.isDigit = true
  nonempty : whole ≠ [] ∨ behind ≠ []
  ends : Boundary Char.isDigit rest

theorem WholeNumber.firstMatch? (number : WholeNumber digits rest) :
    firstMatch? (digits ++ rest) = some (.number, digits, rest) := by
  refine Pattern.firstMatch?_of_split? ?_ fun _ => Pattern.eq_number
  have bound : Boundary Char.isDigit rest := fun c first => (number.ends c first).1
  have front := Pattern.takeWhile_boundary number.decimal bound
  have back := Pattern.dropWhile_boundary number.decimal bound
  simp only [Pattern.split?, Pattern.splitNumber?, front, back]
  cases rest with
  | nil => simp [number.nonempty]
  | cons c rest =>
      have point := (number.ends c rfl).2
      simp [number.nonempty, point]

theorem PointNumber.firstMatch? {whole behind : List Char}
    (number : PointNumber whole behind rest) :
    firstMatch? (whole ++ '.' :: behind ++ rest)
      = some (.number, whole ++ '.' :: behind, rest) := by
  refine Pattern.firstMatch?_of_split? ?_ fun _ => Pattern.eq_number
  have front := Pattern.takeWhile_boundary number.decimal number.ends
  have back := Pattern.dropWhile_boundary number.decimal number.ends
  rw [List.append_assoc, List.cons_append, Pattern.split?_point number.before, front, back]
  rw [front]
  exact number.nonempty

theorem ofExact?_eq_none_iff {n : Nat} : Integer.ofExact? n = none ↔ 9223372036854775807 < n := by
  unfold Integer.ofExact? Integer.least Integer.greatest
  split <;> simp only [reduceCtorEq, true_iff, false_iff] <;> omega

namespace Pattern

theorem boundary_point (behind : List Char) : Boundary Char.isDigit ('.' :: behind) := by
  rintro c ⟨⟩
  rfl

/-- Digits with a point are a float, whatever their value. -/
theorem numberTerminal?_point {whole behind : List Char}
    (digits : ∀ c ∈ whole, c.isDigit = true) : numberTerminal? (whole ++ '.' :: behind)
      = some (.float (.ofDecimal false (digitsValue (whole ++ behind)) behind.length)) := by
  simp only [numberTerminal?, takeWhile_boundary digits (boundary_point behind),
    dropWhile_boundary digits (boundary_point behind)]

theorem number_of_tooLarge {isWord : Char → Bool} (matching : pattern.Matches isWord lexeme rest)
    (large : TooLarge lexeme) : pattern = .number := by
  obtain ⟨c, more, rfl⟩ := List.exists_cons_of_ne_nil matching.nonempty
  have digit := frontOf_digit (large.1 c List.mem_cons_self)
  exact eq_number (matching.frontOf_eq.symm.trans digit)

theorem error_of_tooLarge (large : TooLarge lexeme) (position : Nat) :
    number.terminal? lexeme position
      = .error (.invalidNumber (String.ofList lexeme) position) := by
  simp only [Pattern.terminal?, numberTerminal?_digits large.1,
    ofExact?_eq_none_iff.mpr large.2, Option.map_none]

/-- A lexeme that stands for nothing is a number that is too large. -/
theorem tooLarge_of_terminal? {isWord : Char → Bool} {position : Nat} {error : SyntaxError}
    (matching : pattern.Matches isWord lexeme rest)
    (failed : pattern.terminal? lexeme position = .error error) : TooLarge lexeme := by
  have point {whole behind : List Char} (digits : ∀ c ∈ whole, c.isDigit = true) :
      number.terminal? (whole ++ '.' :: behind) position ≠ .error error := by
    simp [Pattern.terminal?, numberTerminal?_point digits]
  cases matching with
  | whole _ digits =>
      refine ⟨digits, ofExact?_eq_none_iff.mp ?_⟩
      by_contra fits
      obtain ⟨word, fits⟩ := Option.ne_none_iff_exists'.mp fits
      simp [Pattern.terminal?, numberTerminal?_digits digits, fits] at failed
  | pointBehind _ digits => exact absurd failed (point digits)
  | pointFirst => exact absurd failed (@point [] _ (by simp))
  | blanks | symbol | keyword | string | name => cases failed

end Pattern

/-! ## How far a scan comes -/

/-- The scan of a text takes so many bytes of it without a failure, lexeme by longest lexeme, and
then this is left of it. -/
inductive Reaches (isWord : Char → Bool) : List Char → Nat → List Char → Prop where
  | here {text : List Char} : Reaches isWord text 0 text
  | further {lexeme rest left : List Char} {bytes : Nat} :
      Longest isWord lexeme rest → ¬ TooLarge lexeme → Reaches isWord rest bytes left →
      Reaches isWord (lexeme ++ rest) (byteSize lexeme + bytes) left

/-- What keeps a scan at a position from going on with a text. -/
inductive Fault (position : Nat) : List Char → SyntaxError → Prop where
  | stray {text : List Char} : Stray text → Fault position text (.unexpectedCharacter position)
  | tooLarge {digits rest : List Char} : WholeNumber digits rest → TooLarge digits →
      Fault position (digits ++ rest) (.invalidNumber (String.ofList digits) position)

variable {isWord : Char → Bool} {position bytes : Nat} {error : SyntaxError}

theorem Fault.ne_nil (fault : Fault position text error) : text ≠ [] := by
  cases fault with
  | stray stray => exact stray.ne_nil
  | tooLarge number => simp [number.nonempty]

/-! ## Scans that fail -/

theorem scan_of_none (nonempty : text ≠ []) (nothing : firstMatch? text = none) (rounds : Nat) :
    scan rounds position text = .error (.unexpectedCharacter position) := by
  obtain ⟨c, more, rfl⟩ := List.exists_cons_of_ne_nil nonempty
  cases rounds with
  | zero => rfl
  | succ rounds =>
      rw [scan.eq_def]
      simp only [nothing]

variable (found : firstMatch? text = some (pattern, lexeme, rest))

include found

theorem scan_of_error (failed : pattern.terminal? lexeme position = .error error) (rounds : Nat) :
    scan (rounds + 1) position text = .error error := by
  obtain ⟨whole, nonempty⟩ := Pattern.split?_spec (split?_of_firstMatch? found)
  obtain ⟨c, more, rfl⟩ := List.exists_cons_of_ne_nil (l := text) (by simp [← whole, nonempty])
  rw [scan.eq_def]
  simp only [found, failed]

theorem scan_of_further {terminal? : Option Terminal} {rounds : Nat}
    (decoded : pattern.terminal? lexeme position = .ok terminal?)
    (further : scan rounds (position + byteSize lexeme) rest = .error error) :
    scan (rounds + 1) position text = .error error := by
  obtain ⟨whole, nonempty⟩ := Pattern.split?_spec (split?_of_firstMatch? found)
  obtain ⟨c, more, rfl⟩ := List.exists_cons_of_ne_nil (l := text) (by simp [← whole, nonempty])
  rw [scan.eq_def]
  simp only [found, decoded, further]

omit found

/-- A scan fails where there is a fault. -/
theorem Fault.scan_eq (fault : Fault position text error) (rounds : Nat) :
    scan (rounds + 1) position text = .error error := by
  cases fault with
  | stray stray =>
      exact scan_of_none stray.ne_nil ((firstMatch?_eq_none_iff_stray stray.ne_nil).mpr stray) _
  | tooLarge number large =>
      exact scan_of_error number.firstMatch? (Pattern.error_of_tooLarge large position) rounds

/-- A scan that comes to a fault fails there. -/
theorem Reaches.scan_eq (reaches : Reaches isWord text bytes rest)
    (fault : Fault (position + bytes) rest error) {rounds : Nat} (enough : text.length ≤ rounds) :
    scan rounds position text = .error error := by
  induction reaches generalizing position rounds with
  | here =>
      have nonempty := List.length_pos_iff.mpr fault.ne_nil
      obtain ⟨rounds, rfl⟩ := Nat.exists_eq_add_one_of_ne_zero (show rounds ≠ 0 by omega)
      exact fault.scan_eq rounds
  | further longest small _ ih =>
      obtain ⟨pattern, found⟩ := longest_iff.mp longest
      obtain ⟨-, nonempty⟩ := Pattern.split?_spec (split?_of_firstMatch? found)
      have shorter := List.length_pos_iff.mpr nonempty
      rw [List.length_append] at enough
      obtain ⟨rounds, rfl⟩ := Nat.exists_eq_add_one_of_ne_zero (show rounds ≠ 0 by omega)
      rw [← Nat.add_assoc] at fault
      have fails := ih fault (show _ ≤ rounds by omega)
      have matching := Pattern.matches_of_split? (split?_of_firstMatch? found)
      cases decoded : pattern.terminal? _ position with
      | error other => exact absurd (Pattern.tooLarge_of_terminal? matching decoded) small
      | ok terminal? => exact scan_of_further found decoded fails

/-- Too large a number that is the longest lexeme is all digits in a row, without a point. -/
theorem wholeNumber_of_longest (longest : Longest isWord lexeme rest) (large : TooLarge lexeme) :
    WholeNumber lexeme rest := by
  obtain ⟨pattern, here⟩ := longest.here
  refine ⟨here.nonempty, large.1, fun c first => ?_⟩
  obtain ⟨left, rfl⟩ := List.head?_eq_some_iff.mp first
  have no_longer (matching : Pattern.number.Matches isWord (lexeme ++ [c]) left) : False := by
    have bound := longest.longest .number (lexeme ++ [c]) left (by simp) matching
    rw [List.length_append, List.length_singleton] at bound
    omega
  constructor
  · refine Bool.eq_false_iff.mpr fun digit => no_longer (.whole (by simp) fun d among => ?_)
    rcases List.mem_append.mp among with before | last
    · exact large.1 d before
    · rwa [List.mem_singleton.mp last]
  · rintro rfl
    exact no_longer (.pointBehind here.nonempty large.1 nofun)

/-- A scan that fails has come to a fault. -/
theorem fault_of_scan {rounds : Nat} (enough : text.length ≤ rounds)
    (failed : scan rounds position text = .error error) :
    ∃ bytes left, Reaches isWord text bytes left ∧ Fault (position + bytes) left error := by
  induction rounds generalizing position text with
  | zero =>
      obtain rfl := List.length_eq_zero_iff.mp (Nat.le_zero.mp enough)
      cases failed
  | succ rounds ih =>
      obtain _ | ⟨c, text⟩ := text
      · cases failed
      · unfold scan at failed
        split at failed
        · rename_i nothing
          cases failed
          exact ⟨0, _, .here, .stray ((firstMatch?_eq_none_iff_stray (by simp)).mp nothing)⟩
        · rename_i pattern lexeme rest found
          obtain ⟨whole, nonempty⟩ := Pattern.split?_spec (split?_of_firstMatch? found)
          have matching := Pattern.matches_of_split? (split?_of_firstMatch? found)
          have longest : Longest isWord lexeme rest := longest_iff.mpr ⟨pattern, whole ▸ found⟩
          split at failed
          · rename_i reported decoded
            cases failed
            have large := Pattern.tooLarge_of_terminal? matching decoded
            cases Pattern.number_of_tooLarge matching large
            cases (Pattern.error_of_tooLarge large position).symm.trans decoded
            rw [← whole]
            exact ⟨0, _, .here, .tooLarge (wholeNumber_of_longest longest large) large⟩
          · rename_i terminal? decoded
            split at failed
            · rename_i reported further
              cases failed
              have small : ¬ TooLarge lexeme := fun large => by
                cases Pattern.number_of_tooLarge matching large
                cases (Pattern.error_of_tooLarge large position).symm.trans decoded
              have lengths := congrArg List.length whole
              rw [List.length_append] at lengths
              have shorter := List.length_pos_iff.mpr nonempty
              obtain ⟨bytes, left, reaches, fault⟩ :=
                ih (show rest.length ≤ rounds by omega) further
              rw [Nat.add_assoc] at fault
              rw [← whole]
              exact ⟨_, left, .further longest small reaches, fault⟩
            · split at failed <;> cases failed

/-- **A scan fails at the first fault that it comes to**, and nowhere else. -/
theorem tokenize_error_iff (isWord : Char → Bool) {text : String} : tokenize text = .error error
    ↔ ∃ position left, Reaches isWord text.toList position left ∧ Fault position left error := by
  constructor
  · intro failed
    obtain ⟨bytes, left, reaches, fault⟩ :=
      fault_of_scan (Nat.le_of_eq String.length_toList) failed
    rw [Nat.zero_add] at fault
    exact ⟨bytes, left, reaches, fault⟩
  · rintro ⟨position, left, reaches, fault⟩
    rw [← Nat.zero_add position] at fault
    exact reaches.scan_eq fault (Nat.le_of_eq String.length_toList)

/-! ## Scans that go on -/

theorem Reaches.trans {middle left : List Char} {more : Nat}
    (first : Reaches isWord text bytes middle) (second : Reaches isWord middle more left) :
    Reaches isWord text (bytes + more) left := by
  induction first with
  | here => rwa [Nat.zero_add]
  | further longest small _ ih =>
      rw [Nat.add_assoc]
      exact .further longest small (ih second)

/-- What a scan takes of a text is the front of it. -/
theorem Reaches.split {left : List Char} (reaches : Reaches isWord text bytes left) :
    ∃ before, text = before ++ left ∧ bytes = byteSize before := by
  induction reaches with
  | here => exact ⟨[], rfl, rfl⟩
  | @further lexeme _ _ _ _ _ _ ih =>
      obtain ⟨before, rfl, rfl⟩ := ih
      exact ⟨lexeme ++ before, (List.append_assoc _ _ _).symm, (byteSize_append _ _).symm⟩

/-- A lexeme that a scan comes to is taken, if it is no number that is too large. -/
theorem Reaches.past (reaches : Reaches isWord text bytes (lexeme ++ rest))
    (found : firstMatch? (lexeme ++ rest) = some (pattern, lexeme, rest))
    (small : ¬ TooLarge lexeme) : Reaches isWord text (bytes + byteSize lexeme) rest :=
  reaches.trans (.further (longest_iff.mpr ⟨pattern, found⟩) small .here)

/-- What is found where a scan has come is found in the whole text. -/
theorem Scanned.of_reaches {tokens : List Token} {left : List Char}
    (scanned : Scanned position text tokens) (reaches : Reaches isWord text bytes left) :
    ∃ others, Scanned (position + bytes) left others ∧ ∀ token ∈ others, token ∈ tokens := by
  induction reaches generalizing position tokens with
  | here => exact ⟨tokens, scanned, fun token among => among⟩
  | @further lexeme rest left bytes longest _ _ ih =>
      obtain ⟨pattern, found⟩ := longest_iff.mp longest
      generalize whole : lexeme ++ rest = text at scanned found
      cases scanned with
      | done => cases found
      | blank first _ further =>
          cases found.symm.trans first
          obtain ⟨others, scanned, among⟩ := ih further
          exact ⟨others, by rwa [← Nat.add_assoc], among⟩
      | token first _ further =>
          cases found.symm.trans first
          obtain ⟨others, scanned, among⟩ := ih further
          exact ⟨others, by rwa [← Nat.add_assoc],
            fun token inside => List.mem_cons_of_mem _ (among token inside)⟩

/-- A lexeme that a scan comes to is a token of the text. -/
theorem mem_of_reaches {text : String} {tokens : List Token} {terminal : Terminal}
    (scanned : tokenize text = .ok tokens)
    (reaches : Reaches isWord text.toList position (lexeme ++ rest))
    (found : firstMatch? (lexeme ++ rest) = some (pattern, lexeme, rest))
    (decoded : pattern.terminal? lexeme position = .ok (some terminal)) :
    ⟨terminal, String.ofList lexeme, position⟩ ∈ tokens := by
  obtain ⟨inner, rfl, inside⟩ := tokenize_ok_iff.mp scanned
  obtain ⟨others, here, among⟩ := inside.of_reaches reaches
  rw [Nat.zero_add] at here
  refine List.mem_append_left _ (among _ ?_)
  generalize lexeme ++ rest = text at here found
  cases here with
  | done => cases found
  | blank first nothing _ =>
      cases found.symm.trans first
      cases decoded.symm.trans nothing
  | token first named _ =>
      cases found.symm.trans first
      cases decoded.symm.trans named
      exact List.mem_cons_self

/-! ## The failures of a text -/

/-- A number that a scan comes to at a position is the value of a token, and the scan goes on. -/
structure TakenAt (isWord : Char → Bool) (text : String) (position : Nat) (lexeme rest : List Char)
    (terminal : Terminal) : Prop where
  past : Reaches isWord text.toList (position + byteSize lexeme) rest
  token : ∀ tokens, tokenize text = .ok tokens → ⟨terminal, String.ofList lexeme, position⟩ ∈ tokens

theorem takenAt_of_wholeNumber {text : String}
    (reaches : Reaches isWord text.toList position (digits ++ rest))
    (number : WholeNumber digits rest) (small : Pattern.digitsValue digits ≤ 9223372036854775807) :
    ∃ word : Int64, word.toInt = Pattern.digitsValue digits
      ∧ TakenAt isWord text position digits rest (.integer word) := by
  have fits : Integer.ofExact? (Pattern.digitsValue digits) ≠ none := fun large => by
    have := ofExact?_eq_none_iff.mp large
    omega
  obtain ⟨word, fits⟩ := Option.ne_none_iff_exists'.mp fits
  refine ⟨word, Integer.toInt_of_ofExact? fits, reaches.past number.firstMatch? ?_, ?_⟩
  · exact fun large => Nat.not_lt.mpr small large.2
  · intro tokens scanned
    refine mem_of_reaches scanned reaches number.firstMatch? ?_
    simp only [Pattern.terminal?, Pattern.numberTerminal?_digits number.decimal, fits,
      Option.map_some]

theorem takenAt_of_pointNumber {text : String} {whole behind : List Char}
    (reaches : Reaches isWord text.toList position (whole ++ '.' :: behind ++ rest))
    (number : PointNumber whole behind rest) :
    TakenAt isWord text position (whole ++ '.' :: behind) rest
      (.float (.ofDecimal false (Pattern.digitsValue (whole ++ behind)) behind.length)) := by
  refine ⟨reaches.past number.firstMatch? ?_, fun tokens scanned => ?_⟩
  · intro large
    cases large.1 '.' (by simp)
  · refine mem_of_reaches scanned reaches number.firstMatch? ?_
    simp only [Pattern.terminal?, Pattern.numberTerminal?_point number.before]

/-- **Where a text has no tokens.**  Whichever characters outside ASCII go on with a word, the scan
of a text fails at the first place that it comes to where a stray text begins, or a number that is
too large, and it says which of them it is and where.  Digits in a row that are not too large stand
for their exact value, however many they are, and digits with a point are always a number. -/
theorem tokenize_failures (isWord : Char → Bool) (text : String) :
    (∀ position, tokenize text = .error (.unexpectedCharacter position)
      ↔ ∃ left, Reaches isWord text.toList position left ∧ Stray left)
    ∧ (∀ lexeme position, tokenize text = .error (.invalidNumber lexeme position)
      ↔ ∃ rest, Reaches isWord text.toList position (lexeme.toList ++ rest)
        ∧ WholeNumber lexeme.toList rest ∧ 9223372036854775807 < Pattern.digitsValue lexeme.toList)
    ∧ (∀ error, tokenize text = .error error →
      (∃ position, error = .unexpectedCharacter position)
        ∨ ∃ lexeme position, error = .invalidNumber lexeme position)
    ∧ (∀ position digits rest, Reaches isWord text.toList position (digits ++ rest) →
      WholeNumber digits rest → Pattern.digitsValue digits ≤ 9223372036854775807 →
      ∃ word : Int64, word.toInt = Pattern.digitsValue digits
        ∧ TakenAt isWord text position digits rest (.integer word))
    ∧ ∀ position whole behind rest,
      Reaches isWord text.toList position (whole ++ '.' :: behind ++ rest) →
      PointNumber whole behind rest → ∃ x : Binary64,
        TakenAt isWord text position (whole ++ '.' :: behind) rest (.float x) := by
  refine ⟨fun position => ?_, fun lexeme position => ?_, fun error failed => ?_, ?_, ?_⟩
  · rw [tokenize_error_iff isWord]
    constructor
    · rintro ⟨position, left, reaches, ⟨stray⟩⟩
      exact ⟨left, reaches, stray⟩
    · rintro ⟨left, reaches, stray⟩
      exact ⟨position, left, reaches, .stray stray⟩
  · rw [tokenize_error_iff isWord]
    constructor
    · rintro ⟨position, left, reaches, fault⟩
      cases fault with
      | tooLarge number large =>
          rw [String.toList_ofList]
          exact ⟨_, reaches, number, large.2⟩
    · rintro ⟨rest, reaches, number, large⟩
      have fault : Fault position _ _ := .tooLarge number ⟨number.decimal, large⟩
      rw [String.ofList_toList] at fault
      exact ⟨position, _, reaches, fault⟩
  · obtain ⟨position, left, -, fault⟩ := (tokenize_error_iff isWord).mp failed
    cases fault with
    | stray => exact .inl ⟨position, rfl⟩
    | tooLarge => exact .inr ⟨_, position, rfl⟩
  · exact fun position digits rest => takenAt_of_wholeNumber
  · exact fun position whole behind rest reaches number =>
      ⟨_, takenAt_of_pointNumber reaches number⟩

/-- Half of a double sign behind a number with zeros in front. -/
theorem tokenize_failures_half :
    let digits := ['0', '0', '7']
    Reaches Pattern.isWordChar "x 007&".toList 2 (digits ++ ['&']) ∧ WholeNumber digits ['&']
    ∧ Pattern.digitsValue digits ≤ 9223372036854775807
    ∧ (∃ word : Int64, word.toInt = 7
      ∧ TakenAt Pattern.isWordChar "x 007&" 2 digits ['&'] (.integer word))
    ∧ ∃ left, Reaches Pattern.isWordChar "x 007&".toList 5 left ∧ Stray left := by
  intro digits
  have name : Longest Pattern.isWordChar ['x'] " 007&".toList := longest_iff.mpr ⟨.name, rfl⟩
  have gap : Longest Pattern.isWordChar [' '] "007&".toList := longest_iff.mpr ⟨.blanks, rfl⟩
  have reaches : Reaches Pattern.isWordChar "x 007&".toList 2 (digits ++ ['&']) :=
    .further name (fun large => by cases large.1 'x' (by simp))
      (.further gap (fun large => by cases large.1 ' ' (by simp)) .here)
  have decimal : digits.all Char.isDigit = true := rfl
  have number : WholeNumber digits ['&'] := ⟨by decide, List.all_eq_true.mp decimal, by simp⟩
  have value : Pattern.digitsValue digits = 7 := rfl
  have small : Pattern.digitsValue digits ≤ 9223372036854775807 := by omega
  obtain ⟨stray, -, -, whole, -⟩ := tokenize_failures Pattern.isWordChar "x 007&"
  exact ⟨reaches, number, small, whole 2 digits ['&'] reaches number small, (stray 5).mp rfl⟩

end Scriptlet
