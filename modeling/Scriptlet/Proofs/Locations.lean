/-
# Proofs.Locations -- lines and columns lead back to the offset

A reader who is told a line and a column splits the text at its line feeds, counts the lines, and
then counts the characters of the one that is meant.  What is passed over in this way is the text
up to the offset for which the location was given (`Location.LeadsTo`), where an offset inside a
character counts as the boundary behind it and one past the end as the end (`RoundsUp`).

The location itself is found by reading the text from its beginning.  `Location.Reading` is what
holds on the way: the lines that have ended and the part of the current line that has been read are
where the location says, and they are the bytes read so far.  Each character keeps this
(`Location.Reading.step`).  It also moves the location on in the order of lines and columns
(`Location.before_after`), and so no two places of a text share one.
-/
import Mathlib.Order.Bounds.Defs
import Scriptlet.Proofs.Places

namespace Scriptlet

set_option autoImplicit false

/-- The offset, or the end of the text if it is past that, rounded up to a character boundary. -/
def RoundsUp (text : String) (offset place : Nat) : Prop :=
  IsLeast {place | IsPlace text place ∧ min offset text.utf8ByteSize ≤ place} place

theorem byteSize_cons (c : Char) (rest : List Char) :
    byteSize (c :: rest) = c.utf8Size + byteSize rest := by
  simp [byteSize]

namespace Location

/-! ## The way back -/

/-- The lines of a text, without the line feeds between them. -/
def lines (text : List Char) : List (List Char) := text.splitOn '\n'

/-- The bytes of some lines, each with the line feed behind it. -/
def lineBytes (ended : List (List Char)) : Nat := byteSize (ended.flatMap (· ++ ['\n']))

/-- Followed through the lines of a text, the location leads to one of them and to a column that
this line has, and so many bytes stand before it. -/
def LeadsTo (here : Location) (whole : List (List Char)) (bytes : Nat) : Prop :=
  0 < here.line ∧ 0 < here.column ∧ ∃ line, whole[here.line - 1]? = some line
    ∧ here.column - 1 ≤ line.length
    ∧ lineBytes (whole.take (here.line - 1)) + byteSize (line.take (here.column - 1)) = bytes

theorem lines_feed (rest : List Char) : lines ('\n' :: rest) = [] :: lines rest := by
  rw [lines, List.splitOn_cons_eq_if_modifyHead]
  rfl

theorem lines_cons {c : Char} (plain : c ≠ '\n') (rest : List Char) :
    lines (c :: rest) = (lines rest).modifyHead (c :: ·) := by
  rw [lines, List.splitOn_cons_eq_if_modifyHead, if_neg (by simpa using plain)]
  rfl

/-! ## Reading on -/

/-- In the middle of a text with these lines: the location is behind the lines that have ended and
behind what has been read of the current one, which goes on with the rest of the text. -/
inductive Reading (whole : List (List Char)) : Location → Nat → List Char → Prop where
  | behind {ended : List (List Char)} {front rest : List Char} :
      whole = ended ++ (lines rest).modifyHead (front ++ ·) →
      Reading whole ⟨ended.length + 1, front.length + 1⟩ (lineBytes ended + byteSize front) rest

section

variable {whole : List (List Char)} {here there further : Location} {bytes : Nat}
  {rest : List Char} {c : Char}

theorem modifyHead_nil_append (whole : List (List Char)) :
    whole.modifyHead ([] ++ ·) = whole := by
  cases whole <;> rfl

theorem Reading.start (text : List Char) : Reading (lines text) .start 0 text :=
  @Reading.behind _ [] [] text (modifyHead_nil_append _).symm

/-- Reading a character. -/
theorem Reading.step (reading : Reading whole here bytes (c :: rest)) :
    Reading whole (here.after c) (bytes + c.utf8Size) rest := by
  cases reading with
  | @behind ended front _ shape =>
      by_cases feed : c = '\n'
      · subst feed
        have next : whole = (ended ++ [front]) ++ (lines rest).modifyHead ([] ++ ·) := by
          rw [shape, lines_feed, modifyHead_nil_append]
          simp
        have size : lineBytes (ended ++ [front]) + byteSize []
            = lineBytes ended + byteSize front + '\n'.utf8Size := by
          rw [lineBytes, lineBytes, List.flatMap_append, byteSize_append, List.flatMap_singleton,
            byteSize_append, ← Nat.add_assoc]
          rfl
        have moved : (⟨ended.length + 1, front.length + 1⟩ : Location).after '\n'
            = ⟨(ended ++ [front]).length + 1, ([] : List Char).length + 1⟩ := by
          simp [after]
        rw [← size, moved]
        exact .behind next
      · have next : whole = ended ++ (lines rest).modifyHead ((front ++ [c]) ++ ·) := by
          rw [shape, lines_cons feed, List.modifyHead_modifyHead]
          simp [Function.comp_def]
        have size : lineBytes ended + byteSize (front ++ [c])
            = lineBytes ended + byteSize front + c.utf8Size := by
          rw [byteSize_append, byteSize_cons, ← Nat.add_assoc]
          rfl
        have moved : (⟨ended.length + 1, front.length + 1⟩ : Location).after c
            = ⟨ended.length + 1, (front ++ [c]).length + 1⟩ := by
          simp [after, feed]
        rw [← size, moved]
        exact .behind next

/-- Reading some text. -/
theorem Reading.run {before : List Char} (reading : Reading whole here bytes (before ++ rest)) :
    Reading whole (before.foldl after here) (bytes + byteSize before) rest := by
  induction before generalizing here bytes with
  | nil => exact reading
  | cons c before ih =>
      rw [byteSize_cons, ← Nat.add_assoc]
      exact ih reading.step

theorem Reading.leadsTo (reading : Reading whole here bytes rest) : here.LeadsTo whole bytes := by
  cases reading with
  | @behind ended front _ shape =>
      obtain ⟨line, others, current⟩ := List.exists_cons_of_ne_nil (List.splitOn_ne_nil '\n' rest)
      rw [lines, current, List.modifyHead_cons] at shape
      refine ⟨Nat.succ_pos _, Nat.succ_pos _, front ++ line, ?_, ?_, ?_⟩
      · simp [shape]
      · simp
      · simp [shape]

/-! ## The order of locations -/

/-- On an earlier line, or before on the same line. -/
def Before (here there : Location) : Prop :=
  here.line < there.line ∨ here.line = there.line ∧ here.column < there.column

theorem before_after (here : Location) (c : Char) : here.Before (here.after c) := by
  unfold after
  split
  · exact .inl (Nat.lt_succ_self _)
  · exact .inr ⟨rfl, Nat.lt_succ_self _⟩

theorem Before.trans (first : here.Before there) (second : there.Before further) :
    here.Before further := by
  unfold Before at *
  omega

theorem Before.ne (order : here.Before there) : here ≠ there := by
  rintro rfl
  unfold Before at order
  omega

theorem before_foldl {more : List Char} (nonempty : more ≠ []) (here : Location) :
    here.Before (more.foldl after here) := by
  induction more generalizing here with
  | nil => exact absurd rfl nonempty
  | cons c more ih =>
      by_cases last : more = []
      · subst last
        exact before_after here c
      · exact (before_after here c).trans (ih last _)

/-- A place further on has a later location. -/
theorem before_of_lt {text : String} {place other : Nat} (left : IsPlace text place)
    (right : IsPlace text other) (less : place < other) :
    (ofOffset text place).Before (ofOffset text other) := by
  obtain ⟨front, after, rfl, rfl⟩ := isPlace_iff.mp left
  obtain ⟨longer, last, split, rfl⟩ := isPlace_iff.mp right
  have characters : front.toList ++ after.toList = longer.toList ++ last.toList := by
    rw [← String.toList_append, split, String.toList_append]
  rw [← byteSize_toList, ← byteSize_toList] at less
  rw [ofOffset_append, split, ofOffset_append]
  rcases List.append_eq_append_iff.mp characters with ⟨more, whole, -⟩ | ⟨more, whole, -⟩
  · have nonempty : more ≠ [] := by
      rintro rfl
      rw [whole, List.append_nil] at less
      exact Nat.lt_irrefl _ less
    have same : longer = front ++ String.ofList more := by
      apply String.toList_injective
      simpa using whole
    rw [same, ← foldl_after]
    exact before_foldl nonempty _
  · rw [whole, byteSize_append] at less
    omega

end

/-! ## Rounding up -/

/-- An offset is reached with the first characters that make it up, or with the whole text. -/
theorem advance_eq_foldl (here : Location) (offset : Nat) (text : List Char) :
    ∃ before rest, text = before ++ rest ∧ here.advance offset text = before.foldl after here
      ∧ min offset (byteSize text) ≤ byteSize before
      ∧ ∀ front more, before = front ++ more → more ≠ [] → byteSize front < offset := by
  induction text generalizing here offset with
  | nil =>
      refine ⟨[], [], rfl, by cases offset <;> rfl, Nat.min_le_right _ _, ?_⟩
      intro front more whole nonempty
      exact absurd (List.append_eq_nil_iff.mp whole.symm).2 nonempty
  | cons c text ih =>
      cases offset with
      | zero =>
          refine ⟨[], c :: text, rfl, rfl, Nat.min_le_left _ _, ?_⟩
          intro front more whole nonempty
          exact absurd (List.append_eq_nil_iff.mp whole.symm).2 nonempty
      | succ offset =>
          obtain ⟨before, rest, split, same, enough, first⟩ :=
            ih (here.after c) (offset + 1 - c.utf8Size)
          refine ⟨c :: before, rest, congrArg (c :: ·) split, same, ?_, ?_⟩
          · rw [byteSize_cons, byteSize_cons]
            omega
          · intro front more whole nonempty
            cases front with
            | nil => exact Nat.succ_pos offset
            | cons d front =>
                obtain ⟨rfl, behind⟩ := List.cons.inj whole
                have short := first front more behind nonempty
                rw [byteSize_cons]
                omega

/-- The location of an offset is the one behind the text up to the place that the offset is
rounded up to. -/
theorem ofOffset_eq_foldl (text : String) (offset : Nat) :
    ∃ before rest, text.toList = before ++ rest ∧ RoundsUp text offset (byteSize before)
      ∧ ofOffset text offset = before.foldl after start := by
  obtain ⟨before, rest, split, same, enough, first⟩ := advance_eq_foldl start offset text.toList
  rw [byteSize_toList] at enough
  refine ⟨before, rest, split, ⟨⟨?_, enough⟩, ?_⟩, same⟩
  · refine isPlace_iff.mpr ⟨String.ofList before, String.ofList rest, ?_, rfl⟩
    apply String.toList_injective
    simpa using split
  · rintro _ ⟨place, beyond⟩
    obtain ⟨shorter, after, rfl, rfl⟩ := isPlace_iff.mp place
    rw [String.toList_append] at split
    rw [String.utf8ByteSize_append] at beyond
    rw [← byteSize_toList] at beyond ⊢
    rcases List.append_eq_append_iff.mp split with ⟨more, whole, behind⟩ | ⟨more, whole, -⟩
    · by_cases nothing : more = []
      · rw [whole, nothing, List.append_nil]
      · -- The offset was not reached yet, and it would not be past the end.
        have short := first _ more whole nothing
        have inside := byteSize_pos nothing
        rw [← byteSize_toList, behind, byteSize_append] at beyond
        omega
    · rw [whole, byteSize_append]
      exact Nat.le_add_right _ _

/-- **Locations lead back.**  The location of an offset is a line of the text and a column that this
line has, and exactly the text up to the offset stands before them, when the offset is rounded up
to a place of the text.  So of two places the later one has the later location, and no two places
have the same. -/
theorem ofOffset_leadsTo (text : String) :
    (∀ offset, ∃ place, RoundsUp text offset place
      ∧ (ofOffset text offset).LeadsTo (lines text.toList) place)
    ∧ (∀ place other, IsPlace text place → IsPlace text other → place < other →
      (ofOffset text place).Before (ofOffset text other))
    ∧ ∀ place other, IsPlace text place → IsPlace text other →
      ofOffset text place = ofOffset text other → place = other := by
  refine ⟨fun offset => ?_, fun place other left right => before_of_lt left right, ?_⟩
  · obtain ⟨before, rest, split, rounds, same⟩ := ofOffset_eq_foldl text offset
    refine ⟨byteSize before, rounds, ?_⟩
    have reading := Reading.start text.toList
    rw [split] at reading ⊢
    rw [same, ← Nat.zero_add (byteSize before)]
    exact reading.run.leadsTo
  · intro place other left right same
    rcases Nat.lt_trichotomy place other with less | equal | greater
    · exact absurd same (before_of_lt left right less).ne
    · exact equal
    · exact absurd same.symm (before_of_lt right left greater).ne

/-- Places on three lines, of which the second is empty, and an offset inside a character. -/
theorem ofOffset_leadsTo_lines :
    IsPlace "é\n\nx" 3 ∧ IsPlace "é\n\nx" 4
    ∧ (ofOffset "é\n\nx" 3).Before (ofOffset "é\n\nx" 4)
    ∧ ofOffset "é\n\nx" 4 = ⟨3, 1⟩
    ∧ ∃ place, RoundsUp "é\n\nx" 1 place
      ∧ (⟨1, 2⟩ : Location).LeadsTo [['é'], [], ['x']] place := by
  have left : IsPlace "é\n\nx" 3 := isPlace_iff.mpr ⟨"é\n", "\nx", rfl, rfl⟩
  have right : IsPlace "é\n\nx" 4 := isPlace_iff.mpr ⟨"é\n\n", "x", rfl, rfl⟩
  obtain ⟨leads, order, -⟩ := ofOffset_leadsTo "é\n\nx"
  exact ⟨left, right, order 3 4 left right (by decide), rfl, leads 1⟩

end Location

end Scriptlet
