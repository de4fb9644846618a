/-
# Proofs.Token.Munch -- the longest lexeme, by the first pattern

`Pattern.Matches` says which characters at the front of a text a pattern matches, for each
pattern as it is written down: any match, not only the one that `split?` takes.  A pattern
takes its longest match (`longest_of_split?`), and the order of the patterns is such that
the first one that matches anything matches the longest lexeme of all (`munches_of_firstMatch?`).
Two patterns that match at one place are a keyword and a name, or two symbols of which one
begins the other; there the order decides.

A keyword ends at a word boundary.  `Matches` takes the characters of words from outside
ASCII as well, whichever they are (`WordClass`): on a text that has tokens that makes no
difference, since no lexeme begins with such a character (`Matches.of_ascii`).
-/
import Mathlib.Data.List.TakeWhile
import Scriptlet.Proofs.Token.Seams

namespace Scriptlet

set_option autoImplicit false

/-! ## What patterns match -/

/-- The inside of a string: a backslash takes the next character along, which is no line feed, and
no quote stands by itself. -/
inductive StringBody : List Char → Prop where
  | nil : StringBody []
  | plain {c : Char} {body : List Char} :
      c ≠ '"' → c ≠ '\\' → StringBody body → StringBody (c :: body)
  | escaped {c : Char} {body : List Char} :
      c ≠ '\n' → StringBody body → StringBody ('\\' :: c :: body)

/-- A text at whose front no word goes on. -/
def Boundary (isWord : Char → Bool) (rest : List Char) : Prop :=
  ∀ c, rest.head? = some c → isWord c = false

namespace Pattern

/-- The characters of words: letters, digits and the underscore in ASCII, any other characters
outside, and no blank. -/
structure WordClass (isWord : Char → Bool) : Prop where
  ascii : ∀ c : Char, c.toNat < 128 → isWord c = isWordChar c
  blank : ∀ c, Text.isBlank c = true → isWord c = false

/-- A pattern matches a lexeme with the given text behind it. -/
inductive Matches (isWord : Char → Bool) : Pattern → List Char → List Char → Prop where
  | blanks {lexeme rest : List Char} :
      lexeme ≠ [] → (∀ c ∈ lexeme, Text.isBlank c = true) → Matches isWord .blanks lexeme rest
  | symbol (sign : Symbol) {rest : List Char} :
      Matches isWord (.symbol sign) sign.spelling.toList rest
  | keyword (word : Keyword) {rest : List Char} :
      Boundary isWord rest → Matches isWord .keyword word.spelling.toList rest
  | whole {digits rest : List Char} :
      digits ≠ [] → (∀ c ∈ digits, c.isDigit = true) → Matches isWord .number digits rest
  | pointBehind {whole behind rest : List Char} :
      whole ≠ [] → (∀ c ∈ whole, c.isDigit = true) → (∀ c ∈ behind, c.isDigit = true) →
      Matches isWord .number (whole ++ '.' :: behind) rest
  | pointFirst {behind rest : List Char} :
      behind ≠ [] → (∀ c ∈ behind, c.isDigit = true) → Matches isWord .number ('.' :: behind) rest
  | string {body rest : List Char} :
      StringBody body → Matches isWord .string ('"' :: (body ++ ['"'])) rest
  | name {c : Char} {more rest : List Char} :
      isWordStart c = true → (∀ d ∈ more, isWordChar d = true) →
      Matches isWord .name (c :: more) rest

/-- A lexeme is the longest of all that patterns match at the front of the text that it makes up
with `rest`, and the pattern is the first of those that match it. -/
structure Munches (isWord : Char → Bool) (pattern : Pattern) (lexeme rest : List Char) : Prop where
  here : pattern.Matches isWord lexeme rest
  longest : ∀ other ∈ rules, ∀ longer left, longer ++ left = lexeme ++ rest →
    other.Matches isWord longer left → longer.length ≤ lexeme.length
  first : ∃ earlier later, rules = earlier ++ pattern :: later
    ∧ ∀ other ∈ earlier, ¬ other.Matches isWord lexeme rest

variable {text lexeme rest : List Char} {pattern : Pattern} {isWord : Char → Bool}

/-! ## Each pattern takes its longest match -/

theorem boundary_iff : Boundary isWordChar rest ↔ atBoundary rest = true := by
  cases rest <;> simp [Boundary, atBoundary]

theorem stringBody_of_closeString? (closed : closeString? text = some (lexeme, rest)) :
    ∃ body, lexeme = body ++ ['"'] ∧ StringBody body := by
  fun_induction closeString? text generalizing lexeme with
  | case1 => cases closed
  | case2 =>
      cases closed
      exact ⟨[], rfl, .nil⟩
  | case3 => cases closed
  | case4 c others plain ih =>
      obtain ⟨split, inner, same⟩ := Option.map_eq_some_iff.mp closed
      cases same
      obtain ⟨body, shape, inside⟩ := ih inner
      exact ⟨'\\' :: c :: body, by rw [shape]; rfl, .escaped plain inside⟩
  | case5 => cases closed
  | case6 c others quote pair plain ih =>
      obtain ⟨split, inner, same⟩ := Option.map_eq_some_iff.mp closed
      cases same
      obtain ⟨body, shape, inside⟩ := ih inner
      exact ⟨c :: body, by rw [shape]; rfl, .plain quote plain inside⟩

/-- A string ends at the first quote that can end it. -/
theorem closeString?_of_stringBody {body : List Char} (inside : StringBody body)
    (rest : List Char) : closeString? (body ++ '"' :: rest) = some (body ++ ['"'], rest) := by
  induction inside with
  | nil => rfl
  | plain quote plain _ ih => rw [List.cons_append, closeString?_plain quote plain, ih]; rfl
  | escaped line _ ih => simp only [List.cons_append, closeString?, if_neg line, ih]; rfl

theorem matches_of_splitNumber? (found : splitNumber? text = some (lexeme, rest)) :
    number.Matches isWordChar lexeme rest := by
  have digits (text : List Char) : ∀ c ∈ text.takeWhile Char.isDigit, c.isDigit = true :=
    fun c among => List.mem_takeWhile_imp among
  unfold splitNumber? at found
  dsimp only at found
  split at found
  · split at found
    · cases found
    · rename_i behind _ some_digits
      cases found
      by_cases nothing : text.takeWhile Char.isDigit = []
      · rw [nothing]
        exact .pointFirst (fun none_behind => some_digits ⟨nothing, none_behind⟩) (digits _)
      · exact .pointBehind nothing (digits _) (digits _)
  · split at found
    · cases found
    · rename_i nonempty
      cases found
      exact .whole nonempty (digits _)

/-- What a pattern takes is one of its matches. -/
theorem matches_of_split? (found : pattern.split? text = some (lexeme, rest)) :
    pattern.Matches isWordChar lexeme rest := by
  cases pattern with
  | blanks =>
      simp only [split?] at found
      split at found
      · cases found
      · rename_i nonempty
        cases found
        exact .blanks nonempty fun c among => List.mem_takeWhile_imp among
  | symbol sign =>
      obtain ⟨behind, -, same⟩ := Option.map_eq_some_iff.mp found
      cases same
      exact .symbol sign
  | keyword =>
      obtain ⟨word, -, here⟩ := List.exists_of_findSome?_eq_some found
      unfold splitKeyword? at here
      split at here
      · split at here
        · rename_i bound
          cases here
          exact .keyword word (boundary_iff.mpr bound)
        · cases here
      · cases here
  | number => exact matches_of_splitNumber? found
  | string =>
      obtain _ | ⟨c, behind⟩ := text
      · cases found
      · by_cases quote : c = '"'
        · subst quote
          obtain ⟨split, closed, same⟩ := Option.map_eq_some_iff.mp found
          cases same
          obtain ⟨body, shape, inside⟩ := stringBody_of_closeString? closed
          rw [shape]
          exact .string inside
        · simp [split?, quote] at found
  | name =>
      obtain _ | ⟨c, behind⟩ := text
      · cases found
      · simp only [split?] at found
        split at found
        · rename_i start
          cases found
          exact .name start fun d among => List.mem_takeWhile_imp among
        · cases found

/-- A keyword at a word boundary is taken whole. -/
theorem split?_keyword (word : Keyword) (bound : Boundary isWordChar rest) :
    keyword.split? (word.spelling.toList ++ rest) = some (word.spelling.toList, rest) := by
  have bound := boundary_iff.mp bound
  cases word <;>
    simp [split?, Keyword.all, Keyword.spelling, splitKeyword?, List.isPrefixOf?, bound]

theorem split?_symbol (sign : Symbol) :
    (symbol sign).split? (sign.spelling.toList ++ rest) = some (sign.spelling.toList, rest) := by
  have taken := List.isPrefixOf?_eq_some_iff_append_eq.mpr (rfl : sign.spelling.toList ++ rest = _)
  rw [split?, taken, Option.map_some]

theorem split?_string {body : List Char} (inside : StringBody body) :
    string.split? ('"' :: (body ++ ['"']) ++ rest) = some ('"' :: (body ++ ['"']), rest) := by
  simp [split?, closeString?_of_stringBody inside]

/-- Digits with a point among them are taken with all digits behind the point. -/
theorem split?_point {whole behind : List Char} (digits : ∀ c ∈ whole, c.isDigit = true)
    (some_digit : whole ≠ [] ∨ behind.takeWhile Char.isDigit ≠ []) :
    number.split? (whole ++ '.' :: behind)
      = some (whole ++ '.' :: behind.takeWhile Char.isDigit, behind.dropWhile Char.isDigit) := by
  have front : (whole ++ '.' :: behind).takeWhile Char.isDigit = whole := by
    rw [List.takeWhile_append_of_pos digits]
    simp
  have back : (whole ++ '.' :: behind).dropWhile Char.isDigit = '.' :: behind := by
    rw [List.dropWhile_append_of_pos digits]
    simp
  simp only [split?, splitNumber?, front, back]
  rw [if_neg (by tauto)]

/-- Digits at the front of a text are taken, all of them. -/
theorem split?_digits (nonempty : text.takeWhile Char.isDigit ≠ []) :
    ∃ lexeme rest, number.split? text = some (lexeme, rest)
      ∧ (text.takeWhile Char.isDigit).length ≤ lexeme.length := by
  simp only [split?, splitNumber?]
  split
  · rw [if_neg fun both => nonempty both.1]
    exact ⟨_, _, rfl, by simp⟩
  · rw [if_neg nonempty]
    exact ⟨_, _, rfl, Nat.le_refl _⟩

theorem length_le_takeWhile {holds : Char → Bool} {front : List Char}
    (all : ∀ c ∈ front, holds c = true) (behind : List Char) :
    front.length ≤ ((front ++ behind).takeWhile holds).length := by
  rw [List.takeWhile_append_of_pos all]
  simp

theorem takeWhile_ne_nil {holds : Char → Bool} {front : List Char} (nonempty : front ≠ [])
    (all : ∀ c ∈ front, holds c = true) (behind : List Char) :
    (front ++ behind).takeWhile holds ≠ [] := by
  rw [List.takeWhile_append_of_pos all]
  simp [nonempty]

/-- A pattern takes its longest match. -/
theorem longest_of_split? {shorter left : List Char}
    (matching : pattern.Matches isWordChar shorter left) :
    ∃ lexeme rest, pattern.split? (shorter ++ left) = some (lexeme, rest)
      ∧ shorter.length ≤ lexeme.length := by
  cases matching with
  | blanks nonempty blank =>
      exact ⟨_, _, if_neg (takeWhile_ne_nil nonempty blank left), length_le_takeWhile blank left⟩
  | symbol sign => exact ⟨_, _, split?_symbol sign, Nat.le_refl _⟩
  | keyword word bound => exact ⟨_, _, split?_keyword word bound, Nat.le_refl _⟩
  | whole nonempty digits =>
      obtain ⟨lexeme, rest, taken, longer⟩ := split?_digits (takeWhile_ne_nil nonempty digits left)
      exact ⟨lexeme, rest, taken, Nat.le_trans (length_le_takeWhile digits left) longer⟩
  | @pointBehind whole behind _ nonempty digits more =>
      rw [List.append_assoc, List.cons_append]
      refine ⟨_, _, split?_point digits (.inl nonempty), ?_⟩
      have longer := length_le_takeWhile more left
      simpa using longer
  | @pointFirst behind _ nonempty digits =>
      have nothing : ∀ c ∈ ([] : List Char), c.isDigit = true := by simp
      refine ⟨_, _, split?_point nothing (.inr (takeWhile_ne_nil nonempty digits left)), ?_⟩
      exact Nat.succ_le_succ (length_le_takeWhile digits left)
  | string inside => exact ⟨_, _, split?_string inside, Nat.le_refl _⟩
  | name start word =>
      exact ⟨_, _, if_pos start, Nat.succ_le_succ (length_le_takeWhile word left)⟩

/-! ## How lexemes begin -/

/-- What the first character of a lexeme says about its pattern. -/
inductive Front where
  | blank | word | digit | quote | sign | foreign
  deriving DecidableEq

/-- The front of the lexemes that begin with a character. -/
def frontOf (c : Char) : Front :=
  if Text.isBlank c then .blank
  else if isWordStart c then .word
  else if c.isDigit || c == '.' then .digit
  else if c == '"' then .quote
  else if c.toNat < 128 then .sign
  else .foreign

/-- The front of the lexemes of a pattern. -/
def front : Pattern → Front
  | blanks => .blank
  | symbol _ => .sign
  | keyword | name => .word
  | number => .digit
  | string => .quote

theorem ascii_plain : ∀ n < 128, 33 ≤ n → Text.inRanges Text.blankRanges n = false := by decide

theorem digit_bounds {c : Char} (digit : c.isDigit = true) : 48 ≤ c.toNat ∧ c.toNat ≤ 57 := by
  simpa [Char.isDigit, UInt32.le_iff_toNat_le] using digit

theorem wordStart_bounds {c : Char} (start : isWordStart c = true) :
    65 ≤ c.toNat ∧ c.toNat ≤ 122 := by
  change (decide (65 ≤ c.val ∧ c.val ≤ 90) || (97 ≤ c.val && c.val ≤ 122) || c == '_') = true
    at start
  simp only [Bool.or_eq_true, Bool.and_eq_true, decide_eq_true_eq, beq_iff_eq] at start
  rcases start with (⟨low, high⟩ | ⟨low, high⟩) | rfl
  · exact ⟨low, Nat.le_trans high (by decide)⟩
  · exact ⟨Nat.le_trans (by decide) low, high⟩
  · decide

theorem isWordChar_eq (c : Char) : isWordChar c = (isWordStart c || c.isDigit) := by
  simp only [isWordChar, isWordStart, Char.isAlphanum]
  grind

theorem wordChar_bounds {c : Char} (word : isWordChar c = true) :
    48 ≤ c.toNat ∧ c.toNat ≤ 122 := by
  rw [isWordChar_eq, Bool.or_eq_true] at word
  rcases word with start | digit
  · have bounds := wordStart_bounds start
    omega
  · have bounds := digit_bounds digit
    omega

theorem blank_plain {c : Char} (low : 33 ≤ c.toNat) (high : c.toNat < 128) :
    Text.isBlank c = false :=
  ascii_plain c.toNat high low

theorem frontOf_word {c : Char} (start : isWordStart c = true) : frontOf c = .word := by
  have bounds := wordStart_bounds start
  have plain := blank_plain (show 33 ≤ c.toNat by omega) (show c.toNat < 128 by omega)
  simp [frontOf, plain, start]

theorem frontOf_digit {c : Char} (digit : c.isDigit = true) : frontOf c = .digit := by
  have bounds := digit_bounds digit
  have plain := blank_plain (show 33 ≤ c.toNat by omega) (show c.toNat < 128 by omega)
  have other : isWordStart c = false := Bool.eq_false_iff.mpr fun start => by
    have := wordStart_bounds start
    omega
  simp [frontOf, plain, other, digit]

theorem isWordStart_of_keyword (word : Keyword) :
    ∃ c more, word.spelling.toList = c :: more ∧ isWordStart c = true := by
  cases word <;> exact ⟨_, _, rfl, rfl⟩

theorem isWordChar_of_keyword (word : Keyword) :
    ∀ c ∈ word.spelling.toList, isWordChar c = true := by
  have words : word.spelling.toList.all isWordChar = true := by cases word <;> rfl
  exact List.all_eq_true.mp words

theorem Matches.nonempty (matching : pattern.Matches isWord lexeme rest) : lexeme ≠ [] := by
  cases matching with
  | blanks nonempty | whole nonempty => exact nonempty
  | symbol sign => cases sign <;> decide
  | keyword word => cases word <;> decide
  | pointBehind | pointFirst | string | name => simp

/-- The first character of a lexeme says which patterns match it. -/
theorem Matches.frontOf_eq {c : Char} (matching : pattern.Matches isWord (c :: lexeme) rest) :
    frontOf c = pattern.front := by
  generalize shape : c :: lexeme = whole at matching
  cases matching with
  | blanks nonempty blank =>
      subst shape
      simp [frontOf, front, blank c List.mem_cons_self]
  | symbol sign => cases sign <;> cases shape <;> rfl
  | keyword word =>
      obtain ⟨d, more, spelled, start⟩ := isWordStart_of_keyword word
      cases shape.trans spelled
      exact frontOf_word start
  | whole nonempty digits =>
      subst shape
      exact frontOf_digit (digits c List.mem_cons_self)
  | @pointBehind whole behind _ nonempty digits more =>
      obtain ⟨d, others, rfl⟩ := List.exists_cons_of_ne_nil nonempty
      cases shape
      exact frontOf_digit (digits c List.mem_cons_self)
  | pointFirst => cases shape; rfl
  | string => cases shape; rfl
  | name start =>
      cases shape
      exact frontOf_word start

/-- Patterns that match at the same place have the same front. -/
theorem Matches.front_eq {other : Pattern} {longer left : List Char}
    (here : pattern.Matches isWord lexeme rest) (also : other.Matches isWord longer left)
    (same : longer ++ left = lexeme ++ rest) : pattern.front = other.front := by
  obtain ⟨c, more, rfl⟩ := List.exists_cons_of_ne_nil here.nonempty
  obtain ⟨d, others, rfl⟩ := List.exists_cons_of_ne_nil also.nonempty
  cases List.head_eq_of_cons_eq same
  exact here.frontOf_eq.symm.trans also.frontOf_eq

theorem eq_blanks (blank : pattern.front = .blank) : pattern = .blanks := by
  cases pattern <;> first | rfl | cases blank

theorem eq_string (quote : pattern.front = .quote) : pattern = .string := by
  cases pattern <;> first | rfl | cases quote

theorem eq_number (digit : pattern.front = .digit) : pattern = .number := by
  cases pattern <;> first | rfl | cases digit

theorem eq_symbol (sign : pattern.front = .sign) : ∃ symbol, pattern = .symbol symbol := by
  cases pattern <;> first | exact ⟨_, rfl⟩ | cases sign

/-! ## The first pattern takes the longest lexeme -/

/-- A symbol that another one goes on with comes behind it. -/
def precedes : Pattern → Pattern → Bool
  | symbol sign, symbol other => !sign.spelling.toList.isPrefixOf other.spelling.toList
  | _, _ => true

theorem rules_precede : rules.Pairwise fun pattern other => pattern.precedes other = true := by
  decide

theorem takeWhile_boundary {holds : Char → Bool} {front : List Char}
    (all : ∀ c ∈ front, holds c = true) (bound : Boundary holds rest) :
    (front ++ rest).takeWhile holds = front := by
  rw [List.takeWhile_append_of_pos all]
  cases rest with
  | nil => simp
  | cons c rest => simp [bound c rfl]

theorem dropWhile_boundary {holds : Char → Bool} {front : List Char}
    (all : ∀ c ∈ front, holds c = true) (bound : Boundary holds rest) :
    (front ++ rest).dropWhile holds = rest := by
  rw [List.dropWhile_append_of_pos all]
  cases rest with
  | nil => simp
  | cons c rest => simp [bound c rfl]

/-- Keywords and names are all the characters of words in a row. -/
theorem run_of_split? (found : pattern.split? text = some (lexeme, rest))
    (word : pattern.front = .word) : lexeme = text.takeWhile isWordChar := by
  obtain ⟨rfl, -⟩ := split?_spec found
  cases pattern with
  | keyword =>
      cases matches_of_split? found with
      | keyword word bound => rw [takeWhile_boundary (isWordChar_of_keyword word) bound]
  | name =>
      obtain ⟨c, more, rfl⟩ := List.exists_cons_of_ne_nil (split?_spec found).2
      simp only [split?, List.cons_append] at found
      split at found
      · rename_i start
        have same := congrArg Prod.fst (Option.some.inj found)
        have also : isWordChar c = true := by simp [isWordChar_eq, start]
        rw [List.cons_append, List.takeWhile_cons_of_pos also]
        exact same.symm
      · cases found
  | blanks | symbol | number | string => cases word

theorem eq_or_symbols {other : Pattern} (fronts : pattern.front = other.front)
    (word : pattern.front ≠ .word) :
    other = pattern ∨ ∃ sign another, pattern = .symbol sign ∧ other = .symbol another := by
  cases pattern <;> cases other <;> simp_all [front]

/-- Of two patterns that match at one place, the one that comes before takes as much. -/
theorem length_le_of_precedes {other : Pattern} {longer left : List Char}
    (found : pattern.split? text = some (lexeme, rest))
    (also : other.split? text = some (longer, left)) (order : pattern.precedes other = true) :
    longer.length ≤ lexeme.length := by
  have same : longer ++ left = lexeme ++ rest :=
    (split?_spec also).1.trans (split?_spec found).1.symm
  have fronts := (matches_of_split? found).front_eq (matches_of_split? also) same
  by_cases word : pattern.front = .word
  · rw [run_of_split? found word, run_of_split? also (fronts ▸ word)]
  · obtain rfl | ⟨sign, another, rfl, rfl⟩ := eq_or_symbols fronts word
    · cases found.symm.trans also
      exact Nat.le_refl _
    · cases matches_of_split? found
      cases matches_of_split? also
      by_contra shorter
      have front := List.prefix_of_prefix_length_le (List.prefix_append _ rest)
        (same ▸ List.prefix_append _ left) (by omega)
      simp [precedes, List.isPrefixOf_iff_prefix.mpr front] at order

/-- The first pattern that matches anything matches the longest lexeme. -/
theorem munches_of_firstMatch? (found : firstMatch? text = some (pattern, lexeme, rest)) :
    pattern.Munches isWordChar lexeme rest := by
  have here := split?_of_firstMatch? found
  obtain ⟨rfl, -⟩ := split?_spec here
  obtain ⟨earlier, tried, later, order, taken, none_before⟩ :=
    List.findSome?_eq_some_iff.mp found
  obtain ⟨split, -, same⟩ := Option.map_eq_some_iff.mp taken
  cases same
  have none_earlier : ∀ other ∈ earlier, other.split? (lexeme ++ rest) = none :=
    fun other among => Option.map_eq_none_iff.mp (none_before other among)
  refine ⟨matches_of_split? here, ?_, earlier, later, order, ?_⟩
  · intro other among longer left same matching
    obtain ⟨longest, behind, also, longer_yet⟩ := longest_of_split? matching
    rw [same] at also
    refine Nat.le_trans longer_yet ?_
    rw [order, List.mem_append, List.mem_cons] at among
    rcases among with before | rfl | behind
    · rw [none_earlier other before] at also
      cases also
    · cases here.symm.trans also
      exact Nat.le_refl _
    · have ordered := rules_precede
      rw [order, List.pairwise_append, List.pairwise_cons] at ordered
      exact length_le_of_precedes here also (ordered.2.1.1 other behind)
  · intro other before matching
    obtain ⟨longest, behind, also, -⟩ := longest_of_split? matching
    rw [none_earlier other before] at also
    cases also

/-- No two patterns are the first of the rules that match a lexeme. -/
theorem Munches.unique {other : Pattern} (munches : pattern.Munches isWord lexeme rest)
    (also : other.Munches isWord lexeme rest) : pattern = other := by
  obtain ⟨earlier, later, order, none_earlier⟩ := munches.first
  obtain ⟨before, after, order', none_before⟩ := also.first
  rcases List.append_eq_append_iff.mp (order.symm.trans order') with
    ⟨between, rfl, same⟩ | ⟨between, rfl, same⟩
  · cases between with
    | nil => exact (List.head_eq_of_cons_eq same)
    | cons first between =>
        cases List.head_eq_of_cons_eq same
        exact absurd munches.here (none_before _ (by simp))
  · cases between with
    | nil => exact (List.head_eq_of_cons_eq same).symm
    | cons first between =>
        cases List.head_eq_of_cons_eq same
        exact absurd also.here (none_earlier _ (by simp))

theorem mem_rules (pattern : Pattern) : pattern ∈ rules := by
  cases pattern with
  | symbol sign => cases sign <;> decide
  | _ => decide

/-- No lexeme begins a text that no pattern matches at its front. -/
theorem firstMatch?_eq_none_iff : firstMatch? text = none
    ↔ ∀ pattern lexeme rest, lexeme ++ rest = text → ¬ Matches isWordChar pattern lexeme rest := by
  constructor
  · rintro nothing pattern lexeme rest rfl matching
    obtain ⟨longest, behind, taken, -⟩ := longest_of_split? matching
    have untaken := List.findSome?_eq_none_iff.mp nothing pattern (mem_rules pattern)
    rw [taken] at untaken
    cases untaken
  · intro unmatched
    rw [Option.eq_none_iff_forall_ne_some]
    rintro ⟨pattern, lexeme, rest⟩ found
    have here := split?_of_firstMatch? found
    exact unmatched pattern lexeme rest (split?_spec here).1 (matches_of_split? here)

/-- What a pattern takes is the lexeme, if no other pattern has lexemes that begin as its own do. -/
theorem firstMatch?_of_split? (taken : pattern.split? text = some (lexeme, rest))
    (alone : ∀ other : Pattern, other.front = pattern.front → other = pattern) :
    firstMatch? text = some (pattern, lexeme, rest) := by
  have whole := (split?_spec taken).1
  have here := matches_of_split? taken
  cases found : firstMatch? text with
  | none => exact absurd here (firstMatch?_eq_none_iff.mp found pattern lexeme rest whole)
  | some split =>
      obtain ⟨other, longer, left⟩ := split
      have also := split?_of_firstMatch? found
      have same := here.front_eq (matches_of_split? also)
        ((split?_spec also).1.trans whole.symm)
      cases alone other same.symm
      cases taken.symm.trans also
      rfl

theorem firstMatch?_of_munches (munches : pattern.Munches isWordChar lexeme rest) :
    firstMatch? (lexeme ++ rest) = some (pattern, lexeme, rest) := by
  cases found : firstMatch? (lexeme ++ rest) with
  | none => exact absurd munches.here (firstMatch?_eq_none_iff.mp found pattern lexeme rest rfl)
  | some split =>
      obtain ⟨other, longer, left⟩ := split
      have also := munches_of_firstMatch? found
      have same := (split?_spec (split?_of_firstMatch? found)).1
      have longer_length := munches.longest other (mem_rules other) longer left same also.here
      have shorter_length := also.longest pattern (mem_rules pattern) lexeme rest same.symm
        munches.here
      obtain ⟨rfl, rfl⟩ := List.append_inj same (by omega)
      rw [munches.unique also]

/-! ## Other text behind a lexeme -/

/-- Whether a character can follow a lexeme without going on with it. -/
def parts (c : Char) : Bool := !isWordChar c && c ∉ ['.', '=', '&', '|']

/-- A text that can stand behind any lexeme but blanks. -/
def Parted (rest : List Char) : Prop := ∀ c, rest.head? = some c → parts c = true

theorem isWordChar_of_parts {c : Char} (parted : parts c = true) : isWordChar c = false := by
  simp only [parts, Bool.and_eq_true, Bool.not_eq_true'] at parted
  exact parted.1

theorem Parted.boundary (parted : Parted rest) : Boundary isWordChar rest :=
  fun c first => isWordChar_of_parts (parted c first)

theorem parted_nil : Parted [] := nofun

theorem parted_cons {c : Char} : Parted (c :: rest) ↔ parts c = true := by simp [Parted]

theorem parts_of_blank {c : Char} (blank : Text.isBlank c = true) : parts c = true := by
  have word : isWordChar c = false := Bool.eq_false_iff.mpr fun word => by
    have bounds := wordChar_bounds word
    rw [blank_plain (by omega) (by omega)] at blank
    cases blank
  have sign : c ∉ ['.', '=', '&', '|'] := by
    intro among
    simp only [List.mem_cons, List.not_mem_nil, or_false] at among
    rcases among with rfl | rfl | rfl | rfl <;> cases blank
  simp only [parts, word, sign, not_false_eq_true, decide_true, Bool.not_false, Bool.and_self]

theorem parts_of_word {c : Char} (word : isWordChar c = true) : parts c = false := by
  simp [parts, word]

theorem parts_of_digit {c : Char} (digit : c.isDigit = true) : parts c = false :=
  parts_of_word (by simp [isWordChar_eq, digit])

/-- Behind its first character, a lexeme that is neither blank nor a string goes on with characters
that part no lexemes. -/
theorem Matches.going_on {c : Char} (matching : pattern.Matches isWord lexeme rest)
    (blanks : pattern ≠ .blanks) (string : pattern ≠ .string) (among : c ∈ lexeme.tail) :
    parts c = false := by
  cases matching with
  | blanks => exact absurd rfl blanks
  | string => exact absurd rfl string
  | symbol sign =>
      have double : sign.spelling.toList.tail.all (fun d => !parts d) = true := by
        cases sign <;> rfl
      simpa using List.all_eq_true.mp double c among
  | keyword word => exact parts_of_word (isWordChar_of_keyword word c (List.mem_of_mem_tail among))
  | whole _ digits => exact parts_of_digit (digits c (List.mem_of_mem_tail among))
  | pointBehind _ digits more =>
      rcases List.mem_append.mp (List.mem_of_mem_tail among) with before | behind
      · exact parts_of_digit (digits c before)
      · rcases List.mem_cons.mp behind with rfl | behind
        · rfl
        · exact parts_of_digit (more c behind)
  | pointFirst _ more => exact parts_of_digit (more c among)
  | name _ word => exact parts_of_word (word c among)

/-- What a lexeme is matched by does not change with the text behind it, but for keywords. -/
theorem Matches.behind {inWord : Char → Bool} {more : List Char}
    (matching : pattern.Matches isWord lexeme rest)
    (bound : pattern = .keyword → Boundary isWord rest → Boundary inWord more) :
    pattern.Matches inWord lexeme more := by
  cases matching with
  | blanks nonempty blank => exact .blanks nonempty blank
  | symbol sign => exact .symbol sign
  | keyword word here => exact .keyword word (bound rfl here)
  | whole nonempty digits => exact .whole nonempty digits
  | pointBehind nonempty digits more => exact .pointBehind nonempty digits more
  | pointFirst nonempty digits => exact .pointFirst nonempty digits
  | string inside => exact .string inside
  | name start word => exact .name start word

/-- Strings that begin one text are one string. -/
theorem string_unique {longer left : List Char} (here : string.Matches isWord lexeme rest)
    (also : string.Matches isWord longer left) (same : longer ++ left = lexeme ++ rest) :
    longer = lexeme := by
  cases here with
  | @string body _ inside =>
      cases also with
      | string inner =>
          have taken : string.split? ('"' :: (body ++ ['"']) ++ rest) = _ := split?_string inside
          rw [← same, split?_string inner] at taken
          exact congrArg Prod.fst (Option.some.inj taken)

/-- No word goes on behind a keyword or a name that is the longest lexeme. -/
theorem Munches.boundary (munches : pattern.Munches isWordChar lexeme rest)
    (word : pattern.front = .word) : Boundary isWordChar rest := by
  have found := firstMatch?_of_munches munches
  have run := run_of_split? (split?_of_firstMatch? found) word
  have all : ∀ d ∈ lexeme, isWordChar d = true := by
    rw [run]
    exact fun d among => List.mem_takeWhile_imp among
  rw [List.takeWhile_append_of_pos all, List.self_eq_append_right] at run
  intro c first
  obtain ⟨behind, rfl⟩ := List.head?_eq_some_iff.mp first
  by_contra goes_on
  simp [goes_on] at run

/-- A lexeme that is not blank is the longest one with another text behind it as well, if that text
does not go on with it. -/
theorem Munches.parted {more : List Char} (munches : pattern.Munches isWordChar lexeme rest)
    (plain : pattern ≠ .blanks) (parted : Parted more) :
    pattern.Munches isWordChar lexeme more := by
  have here : pattern.Matches isWordChar lexeme more :=
    munches.here.behind fun _ _ => parted.boundary
  refine ⟨here, ?_, ?_⟩
  · intro other _ longer left same matching
    by_contra shorter
    have fronts := here.front_eq matching same
    obtain ⟨d, others, shape⟩ := List.exists_cons_of_ne_nil here.nonempty
    obtain ⟨behind, rfl⟩ := List.prefix_of_prefix_length_le (List.prefix_append lexeme more)
      (same ▸ List.prefix_append longer left) (by omega)
    obtain _ | ⟨c, behind⟩ := behind
    · simp at shorter
    · rw [List.append_assoc] at same
      have first := List.append_cancel_left same
      have part : parts c = true := parted c (by simp [← first])
      have inside : c ∈ (lexeme ++ c :: behind).tail := by simp [shape]
      have blanks : other ≠ .blanks := fun equal => plain (eq_blanks (by rw [fronts, equal]; rfl))
      by_cases string : other = .string
      · subst string
        cases eq_string fronts
        have equal := string_unique here matching (by rw [List.append_assoc, same])
        simp [equal] at shorter
      · rw [matching.going_on blanks string inside] at part
        cases part
  · obtain ⟨earlier, later, order, none_earlier⟩ := munches.first
    refine ⟨earlier, later, order, fun other before matching => ?_⟩
    refine none_earlier other before (matching.behind ?_)
    rintro rfl -
    exact munches.boundary (here.front_eq matching rfl)

/-! ## The characters of words outside ASCII -/

/-- The characters that lexemes begin with are blank or of ASCII. -/
theorem Matches.plain {c : Char} (matching : pattern.Matches isWord (c :: lexeme) rest) :
    Text.isBlank c = true ∨ c.toNat < 128 := by
  have home : frontOf c ≠ .foreign := by
    rw [matching.frontOf_eq]
    cases pattern <;> simp [front]
  contrapose! home
  obtain ⟨plain, high⟩ := home
  have word : ¬ isWordStart c = true := fun start => by
    have bounds := wordStart_bounds start
    omega
  have digit : ¬ (c.isDigit || c == '.') = true := fun point => by
    rcases (Bool.or_eq_true _ _).mp point with digit | point
    · have bounds := digit_bounds digit
      omega
    · rw [beq_iff_eq.mp point] at high
      exact absurd high (by decide)
  have quote : ¬ (c == '"') = true := fun quote => by
    rw [beq_iff_eq.mp quote] at high
    exact absurd high (by decide)
  rw [frontOf, if_neg plain, if_neg word, if_neg digit, if_neg quote, if_neg (by omega)]

theorem WordClass.agree (words : WordClass isWord) {c : Char}
    (plain : Text.isBlank c = true ∨ c.toNat < 128) : isWord c = isWordChar c := by
  rcases plain with blank | low
  · rw [words.blank c blank, isWordChar_of_parts (parts_of_blank blank)]
  · exact words.ascii c low

/-- A word that goes on in ASCII goes on. -/
theorem boundary_ascii (words : WordClass isWord) (bound : Boundary isWord rest) :
    Boundary isWordChar rest := by
  intro c first
  refine Bool.eq_false_iff.mpr fun word => ?_
  have low := (wordChar_bounds word).2
  have not_word := bound c first
  rw [words.ascii c (by omega), word] at not_word
  cases not_word

theorem Matches.ascii (words : WordClass isWord) (matching : pattern.Matches isWord lexeme rest) :
    pattern.Matches isWordChar lexeme rest :=
  matching.behind fun _ => boundary_ascii words

/-- Where no character outside ASCII follows but blanks, it makes no difference which of them go on
with a word. -/
theorem Munches.of_ascii (words : WordClass isWord)
    (munches : pattern.Munches isWordChar lexeme rest)
    (plain : ∀ c, rest.head? = some c → Text.isBlank c = true ∨ c.toNat < 128) :
    pattern.Munches isWord lexeme rest := by
  refine ⟨?_, ?_, ?_⟩
  · exact munches.here.behind fun _ word c first =>
      (words.agree (plain c first)).trans (word c first)
  · exact fun other among longer left same matching =>
      munches.longest other among longer left same (matching.ascii words)
  · obtain ⟨earlier, later, order, none_earlier⟩ := munches.first
    exact ⟨earlier, later, order, fun other before matching =>
      none_earlier other before (matching.ascii words)⟩

end Pattern

/-- The lexeme at the front of a text is the same with anything behind it that parts it from what
comes. -/
theorem firstMatch?_parted {pattern : Pattern} {lexeme rest more : List Char}
    (found : firstMatch? (lexeme ++ rest) = some (pattern, lexeme, rest))
    (plain : pattern ≠ .blanks) (parted : Pattern.Parted more) :
    firstMatch? (lexeme ++ more) = some (pattern, lexeme, more) :=
  Pattern.firstMatch?_of_munches ((Pattern.munches_of_firstMatch? found).parted plain parted)

end Scriptlet
