/-
# Proofs.ReadBack -- printed containers as programs

A list or a map of nulls, booleans, integers, texts, lists and maps is printed as the grammar
writes one, and an assignment of the printed text binds a value.  That is the value printed
exactly if it is `Legible` (`reads_back_iff`): there is no least integer in it, whose digits are
too large for a number without its sign, and all texts and keys are of characters whose escapes
are read as they were meant.

By induction on the value, its text either writes a tree that evaluates to a legible value, and
to this one if it is legible, or it is refused (`Value.Data.back`).  The value that is found is
always legible, so if it is the one that was printed, then that is legible as well.
-/
import Scriptlet.Proofs.Constants
import Scriptlet.Proofs.Equality
import Scriptlet.Proofs.Grammar.Acceptance
import Scriptlet.Proofs.Grammar.Literals
import Scriptlet.Proofs.Sessions

namespace Scriptlet

set_option autoImplicit false

/-! ## Values that are printed as they are written -/

namespace Value

/-- Values without floats and functions, with maps in the order of their keys and containers nested
so deep at most. -/
inductive Data : Nat → Value → Prop where
  | null {depth : Nat} : Data depth .null
  | boolean {depth : Nat} (value : Bool) : Data depth (.boolean value)
  | integer {depth : Nat} (value : Int64) : Data depth (.integer value)
  | text {depth : Nat} (value : String) : Data depth (.text value)
  | list {depth : Nat} {items : List Value} :
      (∀ item ∈ items, Data depth item) → Data (depth + 1) (.list items)
  | map {depth : Nat} {entries : List (String × Value)} :
      (entries.map Prod.fst).Pairwise (· < ·) → (∀ entry ∈ entries, Data depth entry.2) →
      Data (depth + 1) (.map entries)

/-- Values whose text reads back: without the least integer, with texts and keys of characters that
are written as they are or with an escape that is read. -/
inductive Legible : Value → Prop where
  | null : Legible .null
  | boolean (value : Bool) : Legible (.boolean value)
  | integer {value : Int64} : value.toInt ≠ Integer.least → Legible (.integer value)
  | text {value : String} : Text.Legible value → Legible (.text value)
  | list {items : List Value} : (∀ item ∈ items, Legible item) → Legible (.list items)
  | map {entries : List (String × Value)} : (∀ entry ∈ entries, Text.Legible entry.1) →
      (∀ entry ∈ entries, Legible entry.2) → Legible (.map entries)

/-- A list or a map. -/
def IsContainer (value : Value) : Prop := value.kind = .list ∨ value.kind = .map

/-! ## Equality -/

section

variable {depth : Nat} {found value : Value}

theorem eq_of_looselyEqualItems {items others : List Value}
    (same : ∀ item ∈ items, ∀ other ∈ others, other.looselyEquals item = true → other = item)
    (equal : looselyEqualItems others items = true) : others = items :=
  eq_of_forall₂ ((looselyEqualItems_iff others items).mp equal) same

theorem eq_of_looselyEqualEntries {entries others : List (String × Value)}
    (same : ∀ entry ∈ entries, ∀ other ∈ others,
      other.2.looselyEquals entry.2 = true → other.2 = entry.2)
    (equal : looselyEqualEntries others entries = true) : others = entries := by
  rw [looselyEqualEntries_iff, ← forall₂_entries] at equal
  exact eq_of_forall₂ equal fun entry among other here ⟨key, value⟩ =>
    Prod.ext key (same entry among other here value)

/-- No NaN is in a value without floats and functions. -/
theorem Data.not_holdsNaN (data : value.Data depth) : ¬ value.HoldsNaN := by
  intro holds
  induction data with
  | list _ ih =>
      cases holds with
      | member among inner => exact ih _ among inner
  | map _ _ ih =>
      cases holds with
      | member among inner =>
          obtain ⟨entry, inside, rfl⟩ := List.mem_map.mp among
          exact ih entry inside inner
  | _ =>
      cases holds with
      | member among => cases among

/-- Without floats and functions a value equals itself. -/
theorem Data.looselyEquals_self (data : value.Data depth) : value.looselyEquals value = true :=
  (looselyEquals_self_iff value).mpr data.not_holdsNaN

/-- What equals a value without floats and functions and has none either is that value. -/
theorem eq_of_looselyEquals (data : value.Data depth) (legible : found.Legible)
    (equal : found.looselyEquals value = true) : found = value := by
  induction data generalizing found with
  | null => cases legible <;> simp_all [looselyEquals]
  | boolean => cases legible <;> simp_all [looselyEquals]
  | integer => cases legible <;> simp_all [looselyEquals]
  | text => cases legible <;> simp_all [looselyEquals]
  | list _ ih =>
      cases legible with
      | list each =>
          rw [looselyEquals] at equal
          rw [eq_of_looselyEqualItems (fun item among other here => ih item among (each other here))
            equal]
      | _ => simp [looselyEquals] at equal
  | map _ _ ih =>
      cases legible with
      | map _ each =>
          rw [looselyEquals] at equal
          rw [eq_of_looselyEqualEntries
            (fun entry among other here => ih entry among (each other here)) equal]
      | _ => simp [looselyEquals] at equal

end

/-! ## Texts of values -/

/-- The text of a value inside a container. -/
def written (value : Value) : List Char := (value.pieces true).flatMap String.toList

/-- The text of an entry of a map. -/
def entryWritten (entry : String × Value) : List Char :=
  (Text.quote entry.1).toList ++ ([':'] ++ ([' '] ++ entry.2.written))

theorem flatMap_itemPieces (items : List Value) :
    (itemPieces items).flatMap String.toList = Grammar.commas (items.map written) := by
  induction items with
  | nil => rfl
  | cons item items ih =>
      cases items with
      | nil => simp [itemPieces, Grammar.commas, written]
      | cons second items =>
          rw [itemPieces, List.flatMap_append, List.isEmpty_cons, if_neg Bool.false_ne_true,
            List.flatMap_cons, ih]
          rfl

theorem flatMap_entryPieces (entries : List (String × Value)) :
    (entryPieces entries).flatMap String.toList = Grammar.commas (entries.map entryWritten) := by
  induction entries with
  | nil => rfl
  | cons entry entries ih =>
      obtain ⟨key, value⟩ := entry
      cases entries with
      | nil => simp [entryPieces, pairPieces, Grammar.commas, entryWritten, written]
      | cons second entries =>
          rw [entryPieces, List.flatMap_append, List.isEmpty_cons, if_neg Bool.false_ne_true,
            List.flatMap_cons, ih]
          rfl

theorem written_list (items : List Value) : (Value.list items).written
    = ['['] ++ (Grammar.commas (items.map written) ++ [']']) := by
  rw [← flatMap_itemPieces]
  simp [written, pieces]

theorem written_map (entries : List (String × Value)) : (Value.map entries).written
    = ['\x7b'] ++ (Grammar.commas (entries.map entryWritten) ++ ['\x7d']) := by
  rw [← flatMap_entryPieces]
  simp [written, pieces]

theorem toList_display {value : Value} (container : value.IsContainer) :
    value.display.toList = value.written := by
  rw [display, String.toList_join, written]
  cases value with
  | list | map => simp only [pieces]
  | _ => rcases container with kind | kind <;> cases kind

end Value

/-! ## Reading back -/

/-- What comes of the text of something that is printed.  It writes a tree that means something
legible, and that is what was printed if that is legible; or it is refused, because that is not. -/
inductive ReadsBack {tree content : Type} (rule : List Token → tree → Prop)
    (means : tree → content → Prop) (legible : content → Prop) (depth : Nat) (piece : List Char)
    (printed : content) : Prop where
  | read {form : tree} {found : content} :
      Grammar.Writes rule depth piece form → means form found → legible found →
      (legible printed → found = printed) → ReadsBack rule means legible depth piece printed
  | refused : Refused piece → ¬ legible printed →
      ReadsBack rule means legible depth piece printed

open Evaluation Grammar

section

variable {tree content : Type} {rule : List Token → tree → Prop} {means : tree → content → Prop}
  {legible : content → Prop} {depth : Nat}

theorem ReadsBack.settled {piece : List Char} {printed : content}
    (back : ReadsBack rule means legible depth piece printed) :
    (∃ tokens, Scans Pattern.Parted piece tokens) ∨ Refused piece := by
  cases back with
  | read writes =>
      cases writes with
      | intro tokens scans => exact .inl ⟨tokens, scans⟩
  | refused refused => exact .inr refused

/-- Pieces with commas between them are all read, or they are refused because of one of them. -/
theorem ReadsBack.all {write : content → List Char} {items : List content}
    (each : ∀ item ∈ items, ReadsBack rule means legible depth (write item) item) :
    (∃ trees found, List.Forall₂ (Writes rule depth) (items.map write) trees
      ∧ List.Forall₂ means trees found ∧ (∀ item ∈ found, legible item)
      ∧ ((∀ item ∈ items, legible item) → found = items))
    ∨ (Refused (commas (items.map write)) ∧ ¬ ∀ item ∈ items, legible item) := by
  -- Not by induction: one refused piece anywhere refuses all, those before it that are read too.
  by_cases refused : ∃ item ∈ items, Refused (write item) ∧ ¬ legible item
  · obtain ⟨item, among, stuck, illegible⟩ := refused
    refine .inr ⟨refused_commas ?_ ⟨_, List.mem_map_of_mem among, stuck⟩,
      fun all => illegible (all item among)⟩
    rw [List.forall_mem_map]
    exact fun item among => (each item among).settled
  · left
    induction items with
    | nil => exact ⟨[], [], .nil, .nil, nofun, fun _ => rfl⟩
    | cons item items ih =>
        rw [List.forall_mem_cons] at each
        obtain ⟨trees, found, writes, means, legible, same⟩ := ih each.2
          fun ⟨item, among, here⟩ => refused ⟨item, List.mem_cons_of_mem _ among, here⟩
        cases each.1 with
        | refused stuck illegible =>
            exact absurd ⟨item, List.mem_cons_self, stuck, illegible⟩ refused
        | read first here plain whole =>
            refine ⟨_, _, .cons first writes, .cons here means,
              List.forall_mem_cons.mpr ⟨plain, legible⟩, fun all => ?_⟩
            rw [List.forall_mem_cons] at all
            rw [whole all.1, same all.2]

end

namespace Value

variable {depth : Nat}

/-- The text of a value as it is read back. -/
abbrev Back (depth : Nat) (value : Value) : Prop :=
  ReadsBack (Expression .loosest) Evaluates Legible depth value.written value

/-- The text of an entry as it is read back. -/
abbrev EntryBack (depth : Nat) (entry : String × Value) : Prop :=
  ReadsBack Entry EntryEvaluates (fun entry => Text.Legible entry.1 ∧ entry.2.Legible) depth
    (entryWritten entry) entry

/-! ### Integers -/

theorem written_integer (value : Int64) : (Value.integer value).written
    = if 0 ≤ value.toInt then value.toInt.toNat.repr.toList
      else ['-'] ++ (-value.toInt).toNat.repr.toList := by
  have text : (Value.integer value).written = (toString value.toInt).toList := by
    simp [written, pieces]
  rw [text, Int.toString_eq_repr, Int.repr_eq_if]
  split
  · rfl
  · rw [String.toList_append]
    rfl

theorem back_integer (value : Int64) : (Value.integer value).Back depth := by
  have low := Int64.le_toInt value
  have high := Int64.toInt_lt value
  unfold Back
  rw [written_integer]
  split
  · rename_i positive
    have fits : Integer.ofExact? value.toInt.toNat = some value := by
      rw [Int.toNat_of_nonneg positive, Integer.ofExact?_toInt]
    refine .read (.natural fits) (evaluates_of_step 0 fun _ _ _ _ => rfl) (.integer ?_) fun _ => rfl
    simp only [Integer.least]
    omega
  · rename_i negative
    have absolute : ((-value.toInt).toNat : Int) = -value.toInt := Int.toNat_of_nonneg (by omega)
    -- Only the least integer has digits that are no integer without the sign.
    cases fits : Integer.ofExact? (-value.toInt).toNat with
    | some word =>
        have digits := Integer.toInt_of_ofExact? fits
        have exact : Integer.ofExact? (-word.toInt) = some value := by
          rw [digits, absolute, Int.neg_neg, Integer.ofExact?_toInt]
        have below := Int64.toInt_lt word
        refine .read (.negative fits) (evaluates_negate exact) (.integer ?_) fun _ => rfl
        simp only [Integer.least]
        omega
    | none =>
        refine .refused (scans_minus.refused (refused_digits fits) fun _ _ => trivial) ?_
        rintro (_ | _ | other | _ | _ | _)
        simp only [Integer.least] at other
        have range : Integer.ofExact? (-value.toInt).toNat = some _ :=
          if_pos ⟨by simp only [Integer.least]; omega, by simp only [Integer.greatest]; omega⟩
        cases range.symm.trans fits

/-! ### Entries -/

theorem back_entry {entry : String × Value} (back : entry.2.Back depth) :
    EntryBack depth entry := by
  obtain ⟨read, lexed, legible, same⟩ := lexed_quote entry.1
  cases back with
  | @read node found writes means plain whole =>
      have evaluates : EntryEvaluates (read, node) (read, found) := ⟨rfl, means⟩
      refine .read (.entry lexed writes) evaluates ⟨legible, plain⟩ fun all => ?_
      rw [same all.1, whole all.2]
  | refused refused illegible =>
      refine .refused ?_ fun all => illegible all.2
      refine (scans_lexed lexed).refused ?_ fun _ _ => Pattern.parted_cons.mpr rfl
      refine scans_colon.refused ?_ fun _ _ => trivial
      exact scans_space.refused refused fun _ _ => trivial

/-! ### All values -/

theorem back_text (text : String) : (Value.text text).Back depth := by
  obtain ⟨read, legible, same, writes⟩ := @Writes.quoted depth text
  have quoted : (Value.text text).written = (Text.quote text).toList := by simp [written, pieces]
  unfold Back
  rw [quoted]
  refine .read writes (evaluates_of_step 0 fun _ _ _ _ => rfl) (.text legible) ?_
  rintro (_ | _ | _ | all | _ | _)
  rw [same all]

theorem back_list {items : List Value} (each : ∀ item ∈ items, item.Back depth) :
    (Value.list items).Back (depth + 1) := by
  unfold Back
  rw [written_list]
  rcases ReadsBack.all each with ⟨trees, found, writes, means, legible, same⟩ | ⟨refused, some⟩
  · refine .read (.list writes) (evaluates_list means) (.list legible) ?_
    rintro (_ | _ | _ | _ | all | _)
    rw [same all]
  · refine .refused (refused_enclosed squareBrackets refused) ?_
    rintro (_ | _ | _ | _ | all | _)
    exact some all

theorem back_map {entries : List (String × Value)}
    (sorted : (entries.map Prod.fst).Pairwise (· < ·))
    (each : ∀ entry ∈ entries, entry.2.Back depth) : (Value.map entries).Back (depth + 1) := by
  unfold Back
  rw [written_map]
  rcases ReadsBack.all fun entry among => back_entry (each entry among) with
    ⟨trees, found, writes, means, legible, same⟩ | ⟨refused, some⟩
  · have kept : ∀ entry ∈ Dictionary.ofList found, Text.Legible entry.1 ∧ entry.2.Legible :=
      fun entry among => legible entry (Dictionary.mem_ofList among)
    refine .read (.map writes) (evaluates_map means)
      (.map (fun entry among => (kept entry among).1) fun entry among => (kept entry among).2) ?_
    rintro (_ | _ | _ | _ | _ | ⟨keys, values⟩)
    -- Keys that are misread may meet; those that are not are still in order.
    rw [same fun entry among => ⟨keys entry among, values entry among⟩,
      Dictionary.ofList_eq_self sorted]
  · refine .refused (refused_enclosed braces refused) ?_
    rintro (_ | _ | _ | _ | _ | ⟨keys, values⟩)
    exact some fun entry among => ⟨keys entry among, values entry among⟩

theorem back_boolean (value : Bool) : (Value.boolean value).Back depth := by
  cases value with
  | false =>
      exact .read (@Writes.keyword _ .falseWord _ fun _ => .falseWord)
        (evaluates_of_step 0 fun _ _ _ _ => rfl) (.boolean false) fun _ => rfl
  | true =>
      exact .read (@Writes.keyword _ .trueWord _ fun _ => .trueWord)
        (evaluates_of_step 0 fun _ _ _ _ => rfl) (.boolean true) fun _ => rfl

/-- The text of a value is read as something legible or refused, and it is read as the value exactly
if that is legible. -/
theorem Data.back {value : Value} (data : value.Data depth) : value.Back depth := by
  induction data with
  | null =>
      exact .read (@Writes.keyword _ .nullWord _ fun _ => .nullWord)
        (evaluates_of_step 0 fun _ _ _ _ => rfl) .null fun _ => rfl
  | boolean value => exact back_boolean value
  | integer value => exact back_integer value
  | text value => exact back_text value
  | list _ ih => exact back_list ih
  | map sorted _ ih => exact back_map sorted ih

end Value

/-! ## Assignments -/

namespace Session

variable {piece : List Char} {node : Node} {value : Value} {limits : Limits}
  {environment : Environment} {transcript : Transcript}

/-- The text of an assignment up to its right side. -/
def assignmentFront : List Char := ['x'] ++ ([' '] ++ (['='] ++ [' ']))

theorem scans_assignment : Scans Anything assignmentFront fun position =>
    [⟨.name, "x", position⟩, ⟨.symbol .equal, "=", position + 2⟩] := by
  have name : Token.Lexed ⟨.name, "x", 0⟩ := ⟨.name, [], rfl, rfl⟩
  have sign : Token.Lexed ⟨.symbol .equal, "=", 0⟩ := ⟨.symbol .equal, [], rfl, rfl⟩
  have signed := (scans_lexed sign).append scans_space fun _ _ => Pattern.parted_cons.mpr rfl
  have spaced := scans_space.append signed fun _ _ => trivial
  exact (scans_lexed name).append spaced fun _ _ => Pattern.parted_cons.mpr rfl

theorem toList_assignment (text : String) :
    ("x = " ++ text).toList = assignmentFront ++ text.toList := by
  rw [String.toList_append]
  rfl

/-- The text that binds `x` to what a text writes. -/
theorem read_assignment {text : String}
    (writes : Writes (Expression .loosest) 199 text.toList node) :
    read ("x = " ++ text) = .ok (.program [.assign ⟨"x", some 0⟩ node]) := by
  obtain ⟨tokens, scans, derives, shallow⟩ := writes
  have whole := scans_assignment.append scans fun _ _ => trivial
  rw [← toList_assignment] at whole
  refine read_ok_iff.mpr ⟨_, whole.tokenize Pattern.parted_nil, parse_program ?_ rfl ?_⟩
  · have bounded : Shallow 199 (⟨.name, "x", 0⟩ :: ⟨.symbol .equal, "=", 2⟩ :: tokens 4) :=
      .cons ⟨fun _ => rfl, fun _ => rfl⟩ (.cons ⟨fun _ => rfl, fun _ => rfl⟩ (shallow 4))
    rw [nests_iff_fits]
    refine bounded.balanced.fits_append.mpr ⟨bounded.fits 0 (by decide), ?_⟩
    exact fits_cons.mpr ⟨Nat.zero_le _, fits_nil⟩
  · have target : Expression .loosest [⟨.name, "x", 0⟩] (.identifier ⟨"x", some 0⟩) :=
      (Operand.primary (.name rfl)).expression _
    exact .program (.last (.assignment target nofun rfl (derives 4)))

theorem evaluate_assignment (evaluates : Evaluates node value) (limits : Limits)
    (target : Name) (environment : Environment) :
    ∃ rounds, evaluate limits rounds (.program [.assign target node]) (.start environment)
      = .done (.value .null) (.start (environment.assign target.text value)) := by
  obtain ⟨rounds, evaluated⟩ := evaluates
  have bound : evaluate limits (rounds + 1) (.assign target node) (.start environment)
      = .done (.value .null) (.start (environment.assign target.text value)) :=
    bind_done (valueOf_done (evaluated limits rounds _ (Nat.le_refl rounds)))
  exact ⟨rounds + 2, bind_done bound⟩

/-- Running the assignment of a text that writes a tree binds its value. -/
theorem runs_assignment {text : String}
    (writes : Writes (Expression .loosest) 199 text.toList node) (evaluates : Evaluates node value)
    (limits : Limits) (environment : Environment) :
    Runs limits ("x = " ++ text) environment
      ⟨.finished (.value .null), "", environment.assign "x" value⟩ := by
  obtain ⟨rounds, evaluated⟩ := evaluate_assignment evaluates limits ⟨"x", some 0⟩ environment
  refine ⟨rounds, ?_⟩
  rw [run_of_read (read_assignment writes), evaluated]
  rfl

/-- Running the assignment of a text that is refused does nothing. -/
theorem refused_of_runs_assignment {text : String} (refused : Refused text.toList)
    (ran : Runs limits ("x = " ++ text) environment transcript) :
    ∃ error, transcript.ending = .refused error := by
  have stuck : Refused ("x = " ++ text).toList := by
    rw [toList_assignment]
    exact scans_assignment.refused refused fun _ _ => trivial
  obtain ⟨rounds, ran⟩ := ran
  rcases run_cases ran with ⟨error, rfl⟩ | ⟨tree, reads, -⟩
  · exact ⟨error, rfl⟩
  · obtain ⟨tokens, scanned, -⟩ := read_ok_iff.mp reads
    exact absurd scanned (stuck.tokenize tokens)

/-- **Containers read back.** For a list or a map of values without floats and functions, in which
containers are nested 199 deep at most, an assignment of its text succeeds and binds a value equal
to it exactly if it is legible.  Then it binds the value itself, and does nothing else. -/
theorem reads_back_iff {value : Value} (data : value.Data 199) (container : value.IsContainer)
    {callers : List Nat} {environment : Environment} (reached : environment.Reached callers)
    (limits : Limits) :
    ((∃ transcript flow found, Runs limits ("x = " ++ value.display) environment transcript
        ∧ transcript.ending = .finished flow
        ∧ transcript.environment.lookup? "x" = some found ∧ found.looselyEquals value = true)
      ↔ value.Legible)
    ∧ (value.Legible → Runs limits ("x = " ++ value.display) environment
        ⟨.finished (.value .null), "", environment.assign "x" value⟩) := by
  have bound (found : Value) : (environment.assign "x" found).lookup? "x" = some found := by
    rw [Environment.lookup?_assign reached.linked, if_pos rfl]
  have back := data.back
  rw [Value.Back, ← Value.toList_display container] at back
  cases back with
  | @read node found writes means legible same =>
      have runs := runs_assignment writes means limits environment
      refine ⟨⟨?_, fun all => ?_⟩, fun all => same all ▸ runs⟩
      · rintro ⟨transcript, flow, other, ran, -, looked, equal⟩
        obtain rfl := ran.unique reached.depth_pos runs
        obtain rfl := Option.some.inj ((bound found).symm.trans looked)
        exact Value.eq_of_looselyEquals data legible equal ▸ legible
      · obtain rfl := same all
        exact ⟨_, _, _, runs, rfl, bound found, data.looselyEquals_self⟩
  | refused refused illegible =>
      refine ⟨⟨?_, fun all => absurd all illegible⟩, fun all => absurd all illegible⟩
      rintro ⟨transcript, flow, other, ran, finished, -⟩
      obtain ⟨error, stuck⟩ := refused_of_runs_assignment refused ran
      cases stuck.symm.trans finished

/-- `[-1, "a\n", {"k": null}]` -/
def nestedItems : Value := .list [.integer (-1), .text "a\n", .map [("k", .null)]]

theorem reads_back_iff_nested :
    nestedItems.Data 199 ∧ nestedItems.IsContainer ∧ Environment.Reached [] .new
    ∧ nestedItems.display = "[-1, \"a\\n\", \x7b\"k\": null\x7d]"
    ∧ nestedItems.Legible
    ∧ Runs .default "x = [-1, \"a\\n\", \x7b\"k\": null\x7d]" .new
      ⟨.finished (.value .null), "", Environment.new.assign "x" nestedItems⟩ := by
  have data : nestedItems.Data 199 := by
    refine .list (List.forall_mem_cons.mpr ⟨.integer _, List.forall_mem_cons.mpr ⟨.text _, ?_⟩⟩)
    rw [List.forall_mem_singleton]
    exact .map (List.pairwise_singleton _ _) (List.forall_mem_singleton.mpr .null)
  have legible : nestedItems.Legible := by
    have text (s : String) (all : s.toList.all Text.legible = true) : Text.Legible s :=
      List.all_eq_true.mp all
    refine .list (List.forall_mem_cons.mpr ⟨.integer (by decide), List.forall_mem_cons.mpr
      ⟨.text (text _ (by decide +kernel)), ?_⟩⟩)
    rw [List.forall_mem_singleton]
    exact .map (List.forall_mem_singleton.mpr (text _ (by decide +kernel)))
      (List.forall_mem_singleton.mpr .null)
  have shown : nestedItems.display = "[-1, \"a\\n\", \x7b\"k\": null\x7d]" := by decide +kernel
  have runs := (reads_back_iff data (.inl rfl) (.start []) .default).2 legible
  rw [shown] at runs
  exact ⟨data, .inl rfl, .start [], shown, legible, runs⟩

end Session

end Scriptlet
