/-
# Proofs.Displays -- printed containers tell values apart

Lists and maps of nulls, booleans, integers, texts, lists and maps are printed the same only if they
are the same (`display_eq_iff`).  The first character of what is written inside a container tells
the kind of the value, and then each kind ends itself: a quoted text at its closing quote, a
container at its bracket or brace, and an integer at whatever is no digit.  Behind a value stands a
comma, a bracket or a brace, so that two texts of values, with what stands behind them, can only be
the same if the values are, and what stands behind them (`Data.cancels`).
-/
import Scriptlet.Proofs.ReadBack
import Scriptlet.Proofs.Token.Quotes

namespace Scriptlet

set_option autoImplicit false

namespace Grammar

/-- Behind the first piece each further one stands behind a comma. -/
theorem commas_cons (piece : List Char) (pieces : List (List Char)) :
    commas (piece :: pieces) = piece ++ pieces.flatMap fun piece => ',' :: ' ' :: piece := by
  induction pieces generalizing piece with
  | nil => simp [commas]
  | cons second pieces ih =>
      show piece ++ ([','] ++ ([' '] ++ commas (second :: pieces))) = _
      rw [ih, List.flatMap_cons]
      rfl

end Grammar

namespace Value

open Text (Delimited)

variable {depth : Nat} {v w : Value} {rest others : List Char}

/-- Two contents that are the same if their texts are, with what stands behind them. -/
def Cancels {content : Type} (write : content → List Char) (first second : content) : Prop :=
  ∀ rest others, Delimited 10 rest → Delimited 10 others →
    write first ++ rest = write second ++ others → first = second ∧ rest = others

theorem delimited_cons {mark : Char} (apart : ∀ digit < 10, mark ≠ digit.digitChar)
    (rest : List Char) : Delimited 10 (mark :: rest) := by
  rintro _ ⟨⟩
  exact apart

/-- Contents between commas and a closing mark, if no text of one begins with that mark. -/
theorem commas_cancel {content : Type} {write : content → List Char} {mark : Char}
    {items more : List content} (cancels : ∀ item ∈ items, ∀ other ∈ more, Cancels write item other)
    (apart : ∀ item ∈ items, ∀ rest others, write item ++ rest ≠ mark :: others)
    (also : ∀ item ∈ more, ∀ rest others, write item ++ rest ≠ mark :: others)
    (comma : mark ≠ ',') (ends : ∀ digit < 10, mark ≠ digit.digitChar)
    (same : Grammar.commas (items.map write) ++ mark :: rest
      = Grammar.commas (more.map write) ++ mark :: others) :
    items = more ∧ rest = others := by
  let behind (item : content) : List Char := ',' :: ' ' :: write item
  have fit (items : List content) (rest : List Char) :
      Delimited 10 (items.flatMap behind ++ mark :: rest) := by
    cases items with
    | nil => exact delimited_cons ends rest
    | cons => exact delimited_cons (by decide) _
  have front (item : content) (rest others : List Char) : behind item ++ rest ≠ mark :: others :=
    fun same => comma (List.cons.inj same).1.symm
  cases items with
  | nil =>
      cases more with
      | nil => exact ⟨rfl, (List.cons.inj same).2⟩
      | cons other more =>
          rw [List.map_cons, Grammar.commas_cons, List.append_assoc] at same
          exact absurd same.symm (also other List.mem_cons_self _ _)
  | cons item items =>
      rw [List.map_cons, Grammar.commas_cons, List.append_assoc] at same
      cases more with
      | nil => exact absurd same (apart item List.mem_cons_self _ _)
      | cons other more =>
          rw [List.map_cons, Grammar.commas_cons, List.append_assoc, List.flatMap_map,
            List.flatMap_map] at same
          simp only [List.forall_mem_cons] at cancels
          obtain ⟨rfl, tails⟩ := cancels.1.1 _ _ (fit items rest) (fit more others) same
          obtain ⟨rfl, rest⟩ := @Text.flatMap_cancel _ behind mark (Delimited 10) items more _ _
            (fun item among other here rest others ends stops same =>
              (cancels.2 item among).2 other here rest others ends stops
                (List.cons.inj (List.cons.inj same).2).2)
            (fun item _ => front item) (fun item _ => front item) fit tails
          exact ⟨rfl, rest⟩

/-- The kind of the value of which the text begins so. -/
def kindAhead (c : Char) : Option Kind :=
  if c = 'n' then some .null
  else if c = 't' ∨ c = 'f' then some .boolean
  else if c = '"' then some .text
  else if c = '[' then some .list
  else if c = '\x7b' then some .map
  else if c.isDigit ∨ c = '-' then some .integer
  else none

theorem kindAhead_digitChar : ∀ digit < 10, kindAhead digit.digitChar = some .integer := by decide

theorem written_text (s : String) : (text s).written = (Text.quote s).toList := by
  simp [written, pieces]

theorem written_nonnegative {i : Int64} (sign : 0 ≤ i.toInt) :
    (integer i).written = Nat.toDigits 10 i.toInt.toNat := by
  rw [written_integer, if_pos sign, Nat.toList_repr]

theorem written_negative {i : Int64} (sign : ¬ 0 ≤ i.toInt) :
    (integer i).written = '-' :: Nat.toDigits 10 (-i.toInt).toNat := by
  rw [written_integer, if_neg sign, Nat.toList_repr]
  rfl

/-- The first character of a text tells of which kind the value is. -/
theorem written_front (data : v.Data depth) :
    ∃ c behind, v.written = c :: behind ∧ kindAhead c = some v.kind := by
  cases data with
  | null => exact ⟨'n', _, rfl, rfl⟩
  | boolean b =>
      cases b
      · exact ⟨'f', _, rfl, rfl⟩
      · exact ⟨'t', _, rfl, rfl⟩
  | integer i =>
      by_cases sign : 0 ≤ i.toInt
      · obtain ⟨digit, fits, behind, front⟩ := Text.toDigits_front (show 1 < 10 by decide)
          i.toInt.toNat
        exact ⟨_, behind, (written_nonnegative sign).trans front, kindAhead_digitChar digit fits⟩
      · exact ⟨'-', _, written_negative sign, rfl⟩
  | text s => exact ⟨'"', _, (written_text s).trans String.toList_ofList, rfl⟩
  | list => exact ⟨'[', _, written_list _, rfl⟩
  | map => exact ⟨'\x7b', _, written_map _, rfl⟩

theorem cancels_integer (i j : Int64) : Cancels written (integer i) (integer j) := by
  intro rest others ends stops same
  have minus (n : Nat) (rest others : List Char) : '-' :: others ≠ Nat.toDigits 10 n ++ rest := by
    obtain ⟨digit, fits, behind, front⟩ := Text.toDigits_front (show 1 < 10 by decide) n
    rw [front]
    intro same
    have signs : ∀ digit < 10, '-' ≠ digit.digitChar := by decide
    exact signs digit fits (List.cons.inj same).1
  rw [integer.injEq, ← Int64.toInt_inj]
  by_cases sign : 0 ≤ i.toInt <;> by_cases other : 0 ≤ j.toInt
  · rw [written_nonnegative sign, written_nonnegative other] at same
    obtain ⟨digits, behind⟩ := Text.toDigits_cancel (by decide) (by decide) ends stops same
    exact ⟨by omega, behind⟩
  · rw [written_nonnegative sign, written_negative other] at same
    exact absurd same.symm (minus _ _ _)
  · rw [written_negative sign, written_nonnegative other] at same
    exact absurd same (minus _ _ _)
  · rw [written_negative sign, written_negative other] at same
    obtain ⟨digits, behind⟩ :=
      Text.toDigits_cancel (by decide) (by decide) ends stops (List.cons.inj same).2
    exact ⟨by omega, behind⟩

theorem kind_eq_of_written {more : Nat} (data : v.Data depth) (also : w.Data more)
    (same : v.written ++ rest = w.written ++ others) : v.kind = w.kind := by
  obtain ⟨c, behind, front, ahead⟩ := written_front data
  obtain ⟨d, tail, other, kind⟩ := written_front also
  rw [front, other] at same
  rw [← Option.some.injEq, ← ahead, ← kind, (List.cons.inj same).1]

theorem written_ne_mark {mark : Char} (none : kindAhead mark = none) (data : v.Data depth)
    (rest others : List Char) : v.written ++ rest ≠ mark :: others := by
  obtain ⟨c, behind, front, ahead⟩ := written_front data
  rw [front]
  intro same
  rw [(List.cons.inj same).1, none] at ahead
  cases ahead

theorem entryWritten_ne_mark {mark : Char} (apart : mark ≠ '"') (entry : String × Value)
    (rest others : List Char) : entryWritten entry ++ rest ≠ mark :: others := by
  simp only [entryWritten, Text.quote, String.toList_ofList, List.cons_append]
  exact fun same => apart (List.cons.inj same).1.symm

theorem cancels_entry {entry other : String × Value} (cancels : Cancels written entry.2 other.2) :
    Cancels entryWritten entry other := by
  intro rest others ends stops same
  simp only [entryWritten, List.append_assoc] at same
  obtain ⟨key, behind⟩ := Text.quote_cancel same
  obtain ⟨value, tails⟩ := cancels rest others ends stops
    (@List.append_cancel_left _ [':', ' '] _ _ behind)
  exact ⟨Prod.ext key value, tails⟩

/-- By induction on the value: its text, before whatever does not go on with a digit, is not the
text of another one. -/
theorem Data.cancels {more : Nat} (data : v.Data depth) (also : w.Data more) :
    Cancels written v w := by
  induction data generalizing w more with
  | null =>
      intro rest others ends stops same
      have kinds := kind_eq_of_written (@Data.null 0) also same
      cases also <;> cases kinds
      exact ⟨rfl, List.append_cancel_left same⟩
  | boolean b =>
      intro rest others ends stops same
      have kinds := kind_eq_of_written (@Data.boolean 0 b) also same
      cases also <;> cases kinds
      next c =>
        cases b <;> cases c
        · exact ⟨rfl, List.append_cancel_left same⟩
        · exact absurd (List.cons.inj same).1 (by decide)
        · exact absurd (List.cons.inj same).1 (by decide)
        · exact ⟨rfl, List.append_cancel_left same⟩
  | integer i =>
      intro rest others ends stops same
      have kinds := kind_eq_of_written (@Data.integer 0 i) also same
      cases also <;> cases kinds
      exact cancels_integer i _ rest others ends stops same
  | text s =>
      intro rest others ends stops same
      have kinds := kind_eq_of_written (@Data.text 0 s) also same
      cases also <;> cases kinds
      simp only [written_text] at same
      obtain ⟨rfl, behind⟩ := Text.quote_cancel same
      exact ⟨rfl, behind⟩
  | list each ih =>
      intro rest others ends stops same
      have kinds := kind_eq_of_written (.list each) also same
      cases also <;> cases kinds
      next items also =>
        simp only [written_list, List.append_assoc] at same
        obtain ⟨rfl, behind⟩ := commas_cancel
          (fun item among other here => ih item among (also other here))
          (fun item among => written_ne_mark (by decide) (each item among))
          (fun item among => written_ne_mark (by decide) (also item among))
          (by decide) (by decide) (List.cons.inj same).2
        exact ⟨rfl, behind⟩
  | map sorted each ih =>
      intro rest others ends stops same
      have kinds := kind_eq_of_written (.map sorted each) also same
      cases also <;> cases kinds
      next entries _ also =>
        simp only [written_map, List.append_assoc] at same
        obtain ⟨rfl, behind⟩ := commas_cancel
          (fun entry among other here => cancels_entry (ih entry among (also other here)))
          (fun entry _ => entryWritten_ne_mark (by decide) entry)
          (fun entry _ => entryWritten_ne_mark (by decide) entry)
          (by decide) (by decide) (List.cons.inj same).2
        exact ⟨rfl, behind⟩

/-- **Printed containers tell values apart.**  Two lists or maps without floats and functions in
them, of whatever nesting and with whatever texts, are printed the same only if they are the same.
-/
theorem display_eq_iff {more : Nat} (data : v.Data depth) (also : w.Data more)
    (container : v.IsContainer) (other : w.IsContainer) : v.display = w.display ↔ v = w := by
  refine ⟨fun same => ?_, congrArg display⟩
  rw [← String.toList_inj, toList_display container, toList_display other] at same
  have nothing : Delimited 10 [] := nofun
  exact (data.cancels also [] [] nothing nothing (congrArg (· ++ []) same)).1

/-- A text that looks like two items of a list, with what stands between them, is one. -/
theorem display_eq_iff_border :
    let v : Value := .map [("k", .list [.text "a\", \"b"])]
    let w : Value := .map [("k", .list [.text "a", .text "b"])]
    v.Data 2 ∧ w.Data 2 ∧ v.IsContainer ∧ w.IsContainer ∧ v.display ≠ w.display := by
  intro v w
  have texts {items : List Value} (each : ∀ item ∈ items, ∃ s, item = .text s) :
      (map [("k", .list items)]).Data 2 := by
    refine .map (List.pairwise_singleton _ _) fun entry among => ?_
    obtain rfl := List.mem_singleton.mp among
    refine .list fun item among => ?_
    obtain ⟨s, rfl⟩ := each item among
    exact .text s
  have data : v.Data 2 := texts (by simp)
  have also : w.Data 2 := texts (by simp)
  refine ⟨data, also, .inr rfl, .inr rfl, fun same => ?_⟩
  have equal : v = w := (display_eq_iff data also (.inr rfl) (.inr rfl)).mp same
  simp [v, w] at equal

end Value

end Scriptlet
