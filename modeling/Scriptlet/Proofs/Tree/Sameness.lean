/-
# Proofs.Tree.Sameness -- equality of trees, level by level

An equality is `Levelwise` if it compares two trees by what is on their own level and then their
children in order.  Such an equality is symmetric and chains if the comparison of one level does,
and a tree is equal to itself if every level of it is like itself.

So it is with the trees of programs.  On one level the language looks at all but the positions of
names and the signs of zeros, which a `head` leaves out, and a NaN literal is like nothing.  Hence
`Node.same` is symmetric (`same_symm`) and chains (`same_trans`), and a tree is the same as itself
if no NaN literal is in it (`same_self_iff`).
-/
import Mathlib.Data.List.Forall2
import Scriptlet.Proofs.Number.Exact
import Scriptlet.Proofs.Tree.Relabeling

namespace Scriptlet

set_option autoImplicit false

/-! ## Equality level by level -/

/-- An equality that compares one level of two trees, and then their children in order. -/
structure Levelwise {α : Type} (children : α → List α) (alike equal : α → α → Prop) : Prop where
  induct {motive : α → Prop}
    (step : ∀ tree, (∀ child ∈ children tree, motive child) → motive tree) (tree : α) : motive tree
  iff (x y : α) : equal x y ↔ alike x y ∧ List.Forall₂ equal (children x) (children y)

namespace Levelwise

variable {α : Type} {children : α → List α} {alike equal wider other : α → α → Prop} {x y z : α}
  (levels : Levelwise children alike equal)

include levels

theorem symm (alike_symm : ∀ {x y}, alike x y → alike y x) (same : equal x y) : equal y x := by
  induction x using levels.induct generalizing y with
  | step x ih =>
    obtain ⟨level, below⟩ := (levels.iff x y).mp same
    obtain ⟨lengths, below⟩ := List.forall₂_iff_get.mp below
    refine (levels.iff y x).mpr ⟨alike_symm level, List.forall₂_iff_get.mpr ⟨lengths.symm, ?_⟩⟩
    exact fun place right left => ih _ (List.get_mem _ _) (below place left right)

theorem trans (alike_trans : ∀ {x y z}, alike x y → alike y z → alike x z) (same : equal x y)
    (also : equal y z) : equal x z := by
  induction x using levels.induct generalizing y z with
  | step x ih =>
    obtain ⟨level, below⟩ := (levels.iff x y).mp same
    obtain ⟨next, under⟩ := (levels.iff y z).mp also
    obtain ⟨lengths, below⟩ := List.forall₂_iff_get.mp below
    obtain ⟨others, under⟩ := List.forall₂_iff_get.mp under
    refine (levels.iff x z).mpr
      ⟨alike_trans level next, List.forall₂_iff_get.mpr ⟨lengths.trans others, ?_⟩⟩
    exact fun place left right =>
      ih _ (List.get_mem _ _) (below place left (lengths ▸ left))
        (under place (lengths ▸ left) right)

/-- A tree is equal to itself if it is like itself, and so are its children. -/
theorem self_iff : equal x x ↔ alike x x ∧ ∀ child ∈ children x, equal child child := by
  rw [levels.iff x x, List.forall₂_same]

/-- An equality that is stricter on every level is stricter. -/
theorem imp (others : Levelwise children wider other) (weaker : ∀ {x y}, alike x y → wider x y)
    (same : equal x y) : other x y := by
  induction x using levels.induct generalizing y with
  | step x ih =>
    obtain ⟨level, below⟩ := (levels.iff x y).mp same
    obtain ⟨lengths, below⟩ := List.forall₂_iff_get.mp below
    refine (others.iff x y).mpr ⟨weaker level, List.forall₂_iff_get.mpr ⟨lengths, ?_⟩⟩
    exact fun place left right => ih _ (List.get_mem _ _) (below place left right)

end Levelwise

/-! ## Equality along lists -/

section

variable {α : Type}

/-- A comparison that goes along two lists compares them item by item. -/
theorem forall₂_of_equations {equal : α → α → Bool} {items : List α → List α → Bool}
    (nil : items [] [] = true) (longer : ∀ x xs, items (x :: xs) [] = false)
    (shorter : ∀ y ys, items [] (y :: ys) = false)
    (cons : ∀ x y xs ys, items (x :: xs) (y :: ys) = (equal x y && items xs ys))
    (xs ys : List α) : items xs ys = true ↔ List.Forall₂ (fun x y => equal x y = true) xs ys := by
  induction xs generalizing ys with
  | nil => cases ys <;> simp [nil, shorter]
  | cons x xs ih => cases ys <;> simp [longer, cons, ih]

/-- Lists that agree item by item are the same list if items that agree are the same. -/
theorem eq_of_forall₂ {agree : α → α → Prop} {xs ys : List α} (all : List.Forall₂ agree xs ys)
    (same : ∀ y ∈ ys, ∀ x ∈ xs, agree x y → x = y) : xs = ys := by
  obtain ⟨lengths, each⟩ := List.forall₂_iff_get.mp all
  refine List.ext_get lengths fun place left right => ?_
  exact same _ (List.get_mem _ _) _ (List.get_mem _ _) (each place left right)

/-- Entries agree one by one if their keys do and their values do. -/
theorem forall₂_entries {equal : α → α → Prop} (xs ys : List (String × α)) :
    List.Forall₂ (fun x y => x.1 = y.1 ∧ equal x.2 y.2) xs ys
      ↔ xs.map Prod.fst = ys.map Prod.fst
        ∧ List.Forall₂ equal (xs.map Prod.snd) (ys.map Prod.snd) := by
  induction xs generalizing ys with
  | nil => cases ys <;> simp
  | cons x xs ih =>
      cases ys with
      | nil => simp
      | cons y ys =>
          simp only [List.map_cons, List.forall₂_cons, List.cons.injEq, ih]
          exact and_and_and_comm

/-- A comparison that goes along two lists of entries compares keys and values in order. -/
theorem entries_iff_of_equations {equal : α → α → Bool}
    {entries : List (String × α) → List (String × α) → Bool} (nil : entries [] [] = true)
    (longer : ∀ x xs, entries (x :: xs) [] = false) (shorter : ∀ y ys, entries [] (y :: ys) = false)
    (cons : ∀ x y xs ys,
      entries (x :: xs) (y :: ys) = ((x.1 == y.1 && equal x.2 y.2) && entries xs ys))
    (xs ys : List (String × α)) :
    entries xs ys = true ↔ xs.map Prod.fst = ys.map Prod.fst
      ∧ List.Forall₂ (fun x y => equal x y = true) (xs.map Prod.snd) (ys.map Prod.snd) := by
  rw [← forall₂_entries, forall₂_of_equations nil longer shorter cons]
  simp only [Bool.and_eq_true, beq_iff_eq]

end

namespace Name

theorem ofText_inj {text other : String} : ofText text = ofText other ↔ text = other := by
  simp [ofText]

theorem sameAll_iff (names others : List Name) :
    sameAll names others = true
      ↔ names.map (fun name => ofText name.text) = others.map fun name => ofText name.text := by
  have injective : Function.Injective ofText := fun _ _ => ofText_inj.mp
  rw [sameAll, beq_iff_eq, ← (List.map_injective_iff.mpr injective).eq_iff, List.map_map,
    List.map_map]
  rfl

end Name

namespace Node

/-! ## Levels of programs -/

/-- A tree without its children, the positions of its names and the sign of a zero. -/
def head : Node → Node
  | float x => .float x.canonical
  | node => node.mapChildren (fun name => .ofText name.text) fun _ => .null

/-- Whether a tree is anything but a NaN literal. -/
def Clear : Node → Prop
  | float x => x.isNaN = false
  | _ => True

/-- Whether two trees are alike on the level of their roots. -/
def Alike (x y : Node) : Prop := x.head = y.head ∧ x.Clear ∧ y.Clear

/-- Along lists trees are the same if the lists are as long and so are the trees in order. -/
theorem sameAll_iff (xs ys : List Node) :
    sameAll xs ys = true ↔ xs.length = ys.length
      ∧ List.Forall₂ (fun x y => x.same y = true) xs ys := by
  rw [forall₂_of_equations rfl (fun _ _ => rfl) (fun _ _ => rfl) (fun _ _ _ _ => rfl)]
  exact (and_iff_right_of_imp List.Forall₂.length_eq).symm

theorem sameEntries_iff (xs ys : List (String × Node)) :
    sameEntries xs ys = true ↔ xs.map Prod.fst = ys.map Prod.fst
      ∧ List.Forall₂ (fun x y => x.same y = true) (xs.map Prod.snd) (ys.map Prod.snd) :=
  entries_iff_of_equations rfl (fun _ _ => rfl) (fun _ _ => rfl)
    (fun (_, _) (_, _) _ _ => rfl) xs ys

theorem sameOptions_iff (x y : Option Node) :
    sameOptions x y = true ↔ x.map (fun _ => null) = y.map (fun _ => null)
      ∧ List.Forall₂ (fun x y => x.same y = true) x.toList y.toList := by
  cases x <;> cases y <;> simp [sameOptions]

theorem map_null_iff (xs ys : List (String × Node)) :
    xs.map (fun entry => (entry.1, null)) = ys.map (fun entry => (entry.1, null))
      ↔ xs.map Prod.fst = ys.map Prod.fst := by
  constructor
  · intro same
    simpa [Function.comp_def] using congrArg (List.map Prod.fst) same
  · intro same
    simpa [Function.comp_def] using congrArg (List.map fun key => (key, null)) same

/-- The language compares trees level by level. -/
theorem levelwise_same : Levelwise children Alike fun x y => x.same y = true where
  induct step tree := induction_children step tree
  iff x y := by
    -- Different kinds of trees have different heads.
    cases x <;> cases y <;> first
      | exact iff_of_false Bool.false_ne_true fun alike => Node.noConfusion alike.1.1
      | simp [same, Alike, head, mapChildren, Clear, children, Binary64.equals_iff_canonical,
          sameAll_iff, sameEntries_iff, map_null_iff, sameOptions_iff, Name.sameAll_iff,
          Name.ofText_inj, and_assoc, and_left_comm]

/-! ## The same program -/

variable {x y z : Node}

theorem same_symm (same : x.same y = true) : y.same x = true :=
  levelwise_same.symm (fun ⟨heads, left, right⟩ => ⟨heads.symm, right, left⟩) same

theorem same_trans (same : x.same y = true) (also : y.same z = true) : x.same z = true :=
  levelwise_same.trans
    (fun ⟨heads, left, _⟩ ⟨others, _, right⟩ => ⟨heads.trans others, left, right⟩) same also

/-- A tree is the same as itself if no NaN literal is in it. -/
theorem same_self_iff : x.same x = true ↔ x.Throughout Clear := by
  induction x using induction_children with
  | step x ih =>
    have level : x.Alike x ↔ x.Clear := by simp [Alike]
    rw [levelwise_same.self_iff, level, throughout_iff]
    exact and_congr_right fun _ => forall₂_congr ih

end Node

end Scriptlet
