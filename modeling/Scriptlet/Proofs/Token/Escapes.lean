/-
# Proofs.Token.Escapes -- quoted texts as strings

What is printed inside a list or a map can be read again as a program, and the two sides do not
know the same escapes.  Printing writes `\r`, `\0` and code points by number, and reading takes a
backslash off any character but `n` and `t`, so that these come back as letters and digits.

A quoted text is always the inside of one string (`stringBody_escaped`).  The string stands for a
text of `legible` characters only, and for the text that was quoted if that is of such characters
(`unescape_escaped`): those that are written as they are, and the quote, the backslash, the line
feed and the tab.
-/
import Mathlib.Tactic.SplitIfs
import Scriptlet.Proofs.Token.Munch
import Scriptlet.Text.Quoted

namespace Scriptlet

set_option autoImplicit false

namespace Text

/-- Whether a character is written in a quoted text so that it reads back. -/
def legible (c : Char) : Bool := escapeChar c == [c] || c ∈ ['"', '\\', '\n', '\t']

/-- A text of legible characters. -/
def Legible (text : String) : Prop := ∀ c ∈ text.toList, legible c = true

/-! ## Numbers of code points -/

/-- Whether a character is written as it is and stands for itself inside a string. -/
def Plain (c : Char) : Prop := c ≠ '"' ∧ c ≠ '\\' ∧ legible c = true

theorem digitChar_plain : ∀ n < 16, n.digitChar ≠ '"' ∧ n.digitChar ≠ '\\'
    ∧ legible n.digitChar = true := by decide

theorem mem_toDigits {base : Nat} (large : 1 < base) (n : Nat) :
    ∀ c ∈ Nat.toDigits base n, ∃ digit < base, c = digit.digitChar := by
  induction n using Nat.strongRecOn with
  | ind n ih =>
      rw [Nat.toDigits_eq_if large]
      intro c among
      split at among
      · next small => exact ⟨n, small, List.mem_singleton.mp among⟩
      · next more =>
        rcases List.mem_append.mp among with before | last
        · exact ih (n / base) (Nat.div_lt_self (by omega) large) c before
        · exact ⟨n % base, Nat.mod_lt n (by omega), List.mem_singleton.mp last⟩

theorem toDigits_plain (n : Nat) : ∀ c ∈ Nat.toDigits 16 n, Plain c := by
  intro c among
  obtain ⟨digit, fits, rfl⟩ := mem_toDigits (by decide) n c among
  exact digitChar_plain digit fits

/-- The digits of a code point in braces. -/
def braced (c : Char) : List Char := '\x7b' :: (Nat.toDigits 16 c.toNat ++ ['\x7d'])

theorem braced_plain (c : Char) : ∀ d ∈ braced c, Plain d := by
  intro d among
  rcases List.mem_cons.mp among with rfl | among
  · exact ⟨by decide, by decide, by decide⟩
  · rcases List.mem_append.mp among with digit | last
    · exact toDigits_plain _ d digit
    · rw [List.mem_singleton.mp last]
      exact ⟨by decide, by decide, by decide⟩

/-! ## One character -/

/-- The character that a backslash and another one stand for. -/
def unescapeChar (c : Char) : Char := if c = 'n' then '\n' else if c = 't' then '\t' else c

/-- How a character is written in a quoted text: as it is, or with a backslash before a character
and perhaps others, and then it reads back if it is the one that the first of these stands for. -/
inductive Escape (c : Char) : List Char → Prop where
  | plain : Plain c → Escape c [c]
  | escaped {d : Char} {more : List Char} : d ≠ '\n' → (∀ e ∈ more, Plain e) →
      legible (unescapeChar d) = true → (legible c = true → unescapeChar d :: more = [c]) →
      Escape c ('\\' :: d :: more)

theorem escape_escapeChar (c : Char) : Escape c (escapeChar c) := by
  obtain ⟨written, whole⟩ : ∃ written, escapeChar c = written := ⟨_, rfl⟩
  have shape := whole
  rw [escapeChar] at shape
  rw [whole]
  split_ifs at shape with quoted feed carriage tab null unprintable <;> subst shape
  · rcases quoted with rfl | rfl <;> exact .escaped (by decide) nofun (by decide) fun _ => rfl
  · subst feed
    exact .escaped (by decide) nofun (by decide) fun _ => rfl
  · subst carriage
    exact .escaped (by decide) nofun (by decide) fun legible => absurd legible (by decide)
  · subst tab
    exact .escaped (by decide) nofun (by decide) fun _ => rfl
  · subst null
    exact .escaped (by decide) nofun (by decide) fun legible => absurd legible (by decide)
  · refine @Escape.escaped c 'u' (braced c) (by decide) (braced_plain c) (by decide)
      fun legible => ?_
    rw [not_or] at quoted
    simp [Text.legible, quoted, feed, tab, whole] at legible
  · rw [not_or] at quoted
    exact .plain ⟨quoted.1, quoted.2, by simp [legible, whole]⟩

/-! ## Whole texts -/

theorem closes_of_plain {front body : List Char} (plain : ∀ c ∈ front, Plain c)
    (inside : StringBody body) : StringBody (front ++ body) := by
  induction front with
  | nil => exact inside
  | cons c front ih =>
      rw [List.forall_mem_cons] at plain
      exact .plain plain.1.1 plain.1.2.1 (ih plain.2)

theorem Escape.stringBody {c : Char} {escaped body : List Char} (escape : Escape c escaped)
    (inside : StringBody body) : StringBody (escaped ++ body) := by
  cases escape with
  | plain plain => exact .plain plain.1 plain.2.1 inside
  | escaped feed more => exact .escaped feed (closes_of_plain more inside)

theorem unescape_cons {c : Char} (plain : c ≠ '\\') (body : List Char) :
    Pattern.unescape (c :: body) = c :: Pattern.unescape body := by
  cases body <;> simp [Pattern.unescape, plain]

theorem unescape_plain {front : List Char} (plain : ∀ c ∈ front, Plain c) (body : List Char) :
    Pattern.unescape (front ++ body) = front ++ Pattern.unescape body := by
  induction front with
  | nil => rfl
  | cons c front ih =>
      rw [List.forall_mem_cons] at plain
      rw [List.cons_append, unescape_cons plain.1.2.1, ih plain.2, List.cons_append]

/-- An escape stands for legible characters, and for the one that it writes if that is legible. -/
theorem Escape.unescape {c : Char} {escaped : List Char} (escape : Escape c escaped) :
    ∃ read, (∀ body, Pattern.unescape (escaped ++ body) = read ++ Pattern.unescape body)
      ∧ (∀ d ∈ read, legible d = true) ∧ (legible c = true → read = [c]) := by
  cases escape with
  | plain plain =>
      exact ⟨[c], unescape_cons plain.2.1, by simpa using plain.2.2, fun _ => rfl⟩
  | @escaped d more _ plain legible same =>
      refine ⟨unescapeChar d :: more, fun body => ?_, ?_, same⟩
      · rw [List.cons_append, List.cons_append, Pattern.unescape, unescape_plain plain]
        rfl
      · exact List.forall_mem_cons.mpr ⟨legible, fun e among => (plain e among).2.2⟩

/-- A quoted text is the inside of a string. -/
theorem stringBody_escaped (text : List Char) : StringBody (text.flatMap escapeChar) := by
  induction text with
  | nil => exact .nil
  | cons c text ih => exact (escape_escapeChar c).stringBody ih

/-- That string stands for a legible text, and for the one that was quoted if that is legible. -/
theorem unescape_escaped (text : List Char) :
    ∃ read, Pattern.unescape (text.flatMap escapeChar) = read
      ∧ (∀ c ∈ read, legible c = true) ∧ ((∀ c ∈ text, legible c = true) → read = text) := by
  induction text with
  | nil => exact ⟨[], rfl, nofun, fun _ => rfl⟩
  | cons c text ih =>
      obtain ⟨others, rest, all, same⟩ := ih
      obtain ⟨here, front, plain, first⟩ := (escape_escapeChar c).unescape
      refine ⟨here ++ others, ?_, ?_, fun legible => ?_⟩
      · rw [List.flatMap_cons, front, rest]
      · exact fun d among => (List.mem_append.mp among).elim (plain d) (all d)
      · rw [List.forall_mem_cons] at legible
        rw [first legible.1, same legible.2, List.singleton_append]

end Text

end Scriptlet
