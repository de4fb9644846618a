/-
# Proofs.KeyOrder -- dictionaries by the bytes of their keys

Keys are compared character by character.  Of two characters the one with the smaller code point
also has the smaller UTF-8 form, whatever comes behind them, so the order of texts is the order of
their bytes (`Text.lt_iff_bytes_lt`).

A dictionary has its keys in that order (`Dictionary.IsSorted`).  So each key is there once, and
with the value that is found under it.
-/
import Scriptlet.Proofs.Values
import Mathlib.Tactic.SplitIfs

namespace Scriptlet

set_option autoImplicit false

namespace Text

/-! ## Bytes -/

/-- The bytes of the UTF-8 form of a text. -/
def bytes (text : String) : List UInt8 := text.toUTF8.data.toList

theorem bytes_eq_flatMap (text : String) :
    bytes text = text.toList.flatMap String.utf8EncodeChar := by
  have spelled : bytes (String.ofList text.toList)
      = text.toList.flatMap String.utf8EncodeChar := by
    rw [bytes, String.toUTF8_eq_toByteArray, String.toByteArray_ofList, List.utf8Encode,
      List.data_toByteArray]
  rwa [String.ofList_toList] at spelled

theorem ofNat_lt_iff {m n : Nat} (left : m < 256) (right : n < 256) :
    UInt8.ofNat m < UInt8.ofNat n ↔ m < n := by
  rw [UInt8.lt_iff_toNat_lt, UInt8.toNat_ofNat_of_lt' left, UInt8.toNat_ofNat_of_lt' right]

theorem ofNat_eq_iff {m n : Nat} (left : m < 256) (right : n < 256) :
    UInt8.ofNat m = UInt8.ofNat n ↔ m = n := by
  rw [← UInt8.toNat_inj, UInt8.toNat_ofNat_of_lt' left, UInt8.toNat_ofNat_of_lt' right]

theorem toNat_lt_of_char (c : Char) : c.val.toNat < 1114112 := by
  rcases c.valid with low | high
  · exact Nat.lt_trans low (by decide)
  · exact high.2

/-- The smaller character has the smaller bytes, which differ before the shorter form ends. -/
theorem utf8EncodeChar_lt {c d : Char} (less : c < d) (rest others : List UInt8) :
    String.utf8EncodeChar c ++ rest < String.utf8EncodeChar d ++ others := by
  have smaller : c.val.toNat < d.val.toNat := less
  have bound := toNat_lt_of_char d
  have groups (k : Nat) : k / 4096 = k / 64 / 64 ∧ k / 262144 = k / 64 / 64 / 64 := by
    simp [Nat.div_div_eq_div_mul]
  unfold String.utf8EncodeChar
  generalize c.val.toNat = m at smaller ⊢
  generalize d.val.toNat = n at smaller bound ⊢
  simp only [groups]
  -- Forms of different lengths differ in the first byte, and others in the first group of bits
  -- in which the code points do.
  split_ifs <;>
    simp (disch := omega) only [List.cons_append, List.nil_append, List.cons_lt_cons_iff,
      ofNat_lt_iff, ofNat_eq_iff] <;>
    omega

theorem flatMap_lt {first second : List Char} (less : first < second) :
    first.flatMap String.utf8EncodeChar < second.flatMap String.utf8EncodeChar := by
  induction first generalizing second with
  | nil =>
      cases second with
      | nil => cases less
      | cons d second =>
          obtain ⟨byte, bytes, form⟩ :=
            List.exists_cons_of_ne_nil (String.utf8EncodeChar_ne_nil (c := d))
          rw [List.flatMap_nil, List.flatMap_cons, form]
          exact List.nil_lt_cons _ _
  | cons c first ih =>
      cases second with
      | nil => cases less
      | cons d second =>
          rw [List.flatMap_cons, List.flatMap_cons]
          rcases List.cons_lt_cons_iff.mp less with smaller | ⟨rfl, later⟩
          · exact utf8EncodeChar_lt smaller _ _
          · exact List.append_left_lt (ih later)

/-- **The order of texts is that of their bytes.** -/
theorem lt_iff_bytes_lt {first second : String} : first < second ↔ bytes first < bytes second := by
  have forward {first second : String} (less : first < second) : bytes first < bytes second := by
    rw [bytes_eq_flatMap, bytes_eq_flatMap]
    exact flatMap_lt (String.lt_iff.mp less)
  refine ⟨forward, fun less => ?_⟩
  rcases Std.lt_trichotomy first second with before | rfl | behind
  · exact before
  · exact absurd less (List.lt_irrefl _)
  · exact absurd less (List.lt_asymm (forward behind))

end Text

namespace Dictionary

variable {α : Type} {key : String} {value : α} {entries pairs : List (String × α)}

/-! ## Sorted entries -/

/-- The keys are in order, and no key is there twice. -/
def IsSorted (entries : List (String × α)) : Prop := (entries.map Prod.fst).Pairwise (· < ·)

theorem isSorted_cons {entry : String × α} :
    IsSorted (entry :: entries) ↔ (∀ other ∈ entries, entry.1 < other.1) ∧ IsSorted entries := by
  simp [IsSorted, List.pairwise_cons]

theorem IsSorted.insert (sorted : IsSorted entries) : IsSorted (insert key value entries) := by
  induction entries with
  | nil => exact isSorted_cons.mpr ⟨nofun, .nil⟩
  | cons entry rest ih =>
      obtain ⟨first, later⟩ := isSorted_cons.mp sorted
      unfold Dictionary.insert
      split
      · rename_i less
        refine isSorted_cons.mpr ⟨List.forall_mem_cons.mpr ⟨less, fun other among => ?_⟩, sorted⟩
        exact String.lt_trans less (first other among)
      · split
        · rename_i same
          subst same
          exact isSorted_cons.mpr ⟨first, later⟩
        · rename_i not_less other
          refine isSorted_cons.mpr ⟨fun entry' among => ?_, ih later⟩
          rcases mem_insert among with rfl | among
          · exact Std.lt_of_le_of_ne (String.not_lt.mp not_less) (Ne.symm other)
          · exact first entry' among

theorem isSorted_ofList (pairs : List (String × α)) : IsSorted (ofList pairs) := by
  suffices all : ∀ before : List (String × α), IsSorted before →
      IsSorted (pairs.foldl (fun entries pair => insert pair.1 pair.2 entries) before) from
    all [] .nil
  induction pairs with
  | nil => exact fun before sorted => sorted
  | cons pair pairs ih => exact fun before sorted => ih _ sorted.insert

/-- A sorted dictionary has an entry for what is found in it, and no other. -/
theorem IsSorted.mem_iff (sorted : IsSorted entries) :
    (key, value) ∈ entries ↔ find? key entries = some value := by
  refine ⟨fun among => ?_, mem_of_find?⟩
  induction entries with
  | nil => cases among
  | cons entry rest ih =>
      obtain ⟨first, later⟩ := isSorted_cons.mp sorted
      rcases List.mem_cons.mp among with rfl | among
      · rw [find?, if_pos rfl]
      · rw [find?, if_neg (String.ne_of_lt (first _ among)), ih later among]

end Dictionary

end Scriptlet
