/-
# Proofs.Token.Quotes -- a quoted text is the text of one text only

What a quoted text writes for its characters is a code: a text of such words and a closing quote is
a text of these words only (`flatMap_cancel`).  A word is a character that is neither a quote nor a
backslash, or a backslash before one of six letters, or a backslash before the number of a code
point, which ends at a brace that is none of its digits.  So a quoted text is known by what is
written, and ends itself, whatever stands behind it (`quote_cancel`).
-/
import Scriptlet.Proofs.Token.Escapes

namespace Scriptlet

set_option autoImplicit false

namespace Text

/-! ## Numbers -/

/-- No digit of the base stands at the front. -/
def Delimited (base : Nat) (rest : List Char) : Prop :=
  ∀ c ∈ rest.head?, ∀ digit < base, c ≠ digit.digitChar

theorem toDigits_front {base : Nat} (large : 1 < base) (n : Nat) :
    ∃ digit < base, ∃ behind, Nat.toDigits base n = digit.digitChar :: behind := by
  obtain ⟨c, behind, shape⟩ := List.exists_cons_of_ne_nil (@Nat.toDigits_ne_nil n base)
  obtain ⟨digit, fits, rfl⟩ := mem_toDigits large n c (shape ▸ List.mem_cons_self)
  exact ⟨digit, fits, behind, shape⟩

theorem digitChar_inj : ∀ first < 16, ∀ second < 16,
    first.digitChar = second.digitChar → first = second := by decide

/-- A number is known by its digits. -/
theorem toDigits_inj {base n m : Nat} (large : 1 < base) (small : base ≤ 16)
    (same : Nat.toDigits base n = Nat.toDigits base m) : n = m := by
  induction n using Nat.strongRecOn generalizing m with
  | ind n ih =>
      have last (k : Nat) : k % base < 16 := Nat.lt_of_lt_of_le (Nat.mod_lt k (by omega)) small
      rw [Nat.toDigits_eq_if large, @Nat.toDigits_eq_if _ m large] at same
      split at same <;> split at same
      · exact digitChar_inj n (by omega) m (by omega) (List.singleton_inj.mp same)
      · have none := List.append_inj_left' (show [] ++ [_] = _ from same) rfl
        exact absurd none.symm Nat.toDigits_ne_nil
      · have none := List.append_inj_left' (show _ = [] ++ [_] from same) rfl
        exact absurd none Nat.toDigits_ne_nil
      · next more _ =>
        obtain ⟨front, digit⟩ := List.append_inj' same rfl
        have whole := ih (n / base) (Nat.div_lt_self (by omega) large) front
        have rest := digitChar_inj _ (last n) _ (last m) (List.singleton_inj.mp digit)
        rw [← Nat.div_add_mod n base, whole, rest, Nat.div_add_mod]

/-- Two runs of characters with something else behind them. -/
theorem run_cancel {p : Char → Prop} {first second rest others : List Char}
    (run : ∀ c ∈ first, p c) (also : ∀ c ∈ second, p c) (ends : ∀ c ∈ rest.head?, ¬ p c)
    (stops : ∀ c ∈ others.head?, ¬ p c) (same : first ++ rest = second ++ others) :
    first = second ∧ rest = others := by
  induction first generalizing second with
  | nil =>
      cases second with
      | nil => exact ⟨rfl, same⟩
      | cons c second =>
          rw [List.forall_mem_cons] at also
          exact absurd also.1 (ends c (by rw [List.nil_append] at same; rw [same]; rfl))
  | cons c first ih =>
      rw [List.forall_mem_cons] at run
      cases second with
      | nil => exact absurd run.1 (stops c (by rw [List.nil_append] at same; rw [← same]; rfl))
      | cons d second =>
          rw [List.forall_mem_cons] at also
          obtain ⟨rfl, tails⟩ := List.cons.inj same
          obtain ⟨rfl, rest⟩ := ih run.2 also.2 tails
          exact ⟨rfl, rest⟩

theorem toDigits_cancel {base n m : Nat} {rest others : List Char} (large : 1 < base)
    (small : base ≤ 16) (ends : Delimited base rest) (stops : Delimited base others)
    (same : Nat.toDigits base n ++ rest = Nat.toDigits base m ++ others) :
    n = m ∧ rest = others := by
  obtain ⟨digits, behind⟩ := run_cancel (mem_toDigits large n) (mem_toDigits large m)
    (fun c front ⟨digit, fits, equal⟩ => ends c front digit fits equal)
    (fun c front ⟨digit, fits, equal⟩ => stops c front digit fits equal) same
  exact ⟨toDigits_inj large small digits, behind⟩

/-! ## Codes -/

/-- Code words of which each may stand before the others and before the mark that ends them, but
does not begin with it: a text of such words and the mark is a text of these words only. -/
theorem flatMap_cancel {α : Type} {write : α → List Char} {mark : Char} {fits : List Char → Prop}
    {words others : List α} {rest more : List Char}
    (cancels : ∀ word ∈ words, ∀ other ∈ others, ∀ rest more, fits rest → fits more →
      write word ++ rest = write other ++ more → word = other ∧ rest = more)
    (apart : ∀ word ∈ words, ∀ rest more, write word ++ rest ≠ mark :: more)
    (also : ∀ word ∈ others, ∀ rest more, write word ++ rest ≠ mark :: more)
    (fit : ∀ words rest, fits (List.flatMap write words ++ mark :: rest))
    (same : words.flatMap write ++ mark :: rest = others.flatMap write ++ mark :: more) :
    words = others ∧ rest = more := by
  induction words generalizing others with
  | nil =>
      cases others with
      | nil => exact ⟨rfl, (List.cons.inj same).2⟩
      | cons other others =>
          rw [List.flatMap_cons, List.append_assoc] at same
          exact absurd same.symm (also other List.mem_cons_self _ _)
  | cons word words ih =>
      rw [List.flatMap_cons, List.append_assoc] at same
      cases others with
      | nil => exact absurd same (apart word List.mem_cons_self _ _)
      | cons other others =>
          rw [List.flatMap_cons, List.append_assoc] at same
          simp only [List.forall_mem_cons] at cancels apart also
          obtain ⟨rfl, behind⟩ := cancels.1.1 _ _ (fit _ _) (fit _ _) same
          have each := fun word among => (cancels.2 word among).2
          obtain ⟨rfl, rest⟩ := ih each apart.2 also.2 behind
          exact ⟨rfl, rest⟩

/-! ## Quoted texts -/

/-- The letters that stand behind a backslash for another character. -/
def letters : List (Char × Char) :=
  [('"', '"'), ('\\', '\\'), ('n', '\n'), ('r', '\r'), ('t', '\t'), ('0', '\x00')]

/-- The ways to write a character in a quoted text. -/
inductive Form (c : Char) : List Char → Prop where
  | plain : c ≠ '"' → c ≠ '\\' → Form c [c]
  | letter {l : Char} : (l, c) ∈ letters → Form c ['\\', l]
  | number : Form c ('\\' :: 'u' :: braced c)

theorem form_escapeChar (c : Char) : Form c (escapeChar c) := by
  unfold escapeChar
  split_ifs with quoted feed carriage tab null unprintable
  · rcases quoted with rfl | rfl <;> exact .letter (by decide)
  · exact .letter (by simp [letters, feed])
  · exact .letter (by simp [letters, carriage])
  · exact .letter (by simp [letters, tab])
  · exact .letter (by simp [letters, null])
  · exact .number
  · rw [not_or] at quoted
    exact .plain quoted.1 quoted.2

theorem letters_inj : ∀ first ∈ letters, ∀ second ∈ letters,
    first.1 = second.1 → first.2 = second.2 := by decide

theorem letters_ne_number : ∀ entry ∈ letters, entry.1 ≠ 'u' := by decide

variable {c d : Char} {first second rest others : List Char}

theorem Form.cancel (form : Form c first) (other : Form d second)
    (same : first ++ rest = second ++ others) : c = d ∧ rest = others := by
  cases form with
  | plain _ slash =>
      cases other with
      | plain => exact List.cons.inj same
      | letter | number => exact absurd (List.cons.inj same).1 slash
  | @letter l known =>
      cases other with
      | plain _ slash => exact absurd (List.cons.inj same).1.symm slash
      | letter also =>
          obtain ⟨rfl, behind⟩ := List.cons.inj (List.cons.inj same).2
          exact ⟨letters_inj _ known _ also rfl, behind⟩
      | number =>
          exact absurd (List.cons.inj (List.cons.inj same).2).1 (letters_ne_number _ known)
  | number =>
      cases other with
      | plain _ slash => exact absurd (List.cons.inj same).1.symm slash
      | letter known =>
          exact absurd (List.cons.inj (List.cons.inj same).2).1.symm (letters_ne_number _ known)
      | number =>
          simp only [braced, List.cons_append, List.append_assoc, List.cons.injEq, true_and] at same
          have ends (rest : List Char) : Delimited 16 ('\x7d' :: rest) := by
            rintro _ ⟨⟩
            decide
          obtain ⟨point, behind⟩ := toDigits_cancel (by decide) (by decide) (ends _) (ends _) same
          exact ⟨Char.toNat_inj.mp point, (List.cons.inj behind).2⟩

theorem Form.ne_quote (form : Form c first) : first ++ rest ≠ '"' :: others := by
  intro same
  cases form with
  | plain quote => exact quote (List.cons.inj same).1
  | letter | number => exact absurd (List.cons.inj same).1 (by decide)

/-- A quoted text ends itself, and is known by what is written. -/
theorem quote_cancel {text other : String}
    (same : (quote text).toList ++ rest = (quote other).toList ++ others) :
    text = other ∧ rest = others := by
  simp only [quote, String.toList_ofList, List.cons_append, List.append_assoc, List.cons.injEq,
    true_and] at same
  obtain ⟨characters, behind⟩ := @flatMap_cancel _ _ _ (fun _ => True) _ _ _ _
    (fun c _ d _ _ _ _ _ => (form_escapeChar c).cancel (form_escapeChar d))
    (fun c _ _ _ => (form_escapeChar c).ne_quote) (fun c _ _ _ => (form_escapeChar c).ne_quote)
    (fun _ _ => trivial) same
  exact ⟨String.toList_inj.mp characters, behind⟩

end Text

end Scriptlet
