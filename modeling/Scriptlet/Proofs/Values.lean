/-
# Proofs.Values -- what programs can make of a function

A function is a value that programs hand around, keep in containers and compare, and the
operators are all that can take one apart.  Two things are true of every operator:

* it makes no functions: those in its result were in its operands (`throughout_binary`,
  `throughout_indexed`);
* it does not see where names were read: changed operands give the same result with its
  names changed, or the same error (`binary_relabel`, `indexed_relabel`).  The same is true
  of conditions (`isTruthy_relabel`) and of what is printed (`pieces_relabel`).
-/
import Scriptlet.Evaluation.Indexing
import Scriptlet.Evaluation.Operators
import Scriptlet.Proofs.Tree.Relabeling
import Scriptlet.Value.Display

namespace Scriptlet

set_option autoImplicit false

namespace Dictionary

variable {α : Type} {key : String} {value : α} {entries : List (String × α)}

theorem mem_of_find? (found : find? key entries = some value) : (key, value) ∈ entries := by
  induction entries with
  | nil => cases found
  | cons entry entries ih =>
      simp only [find?] at found
      split at found
      · rename_i here
        obtain rfl := Option.some.inj found
        rw [← here]
        exact List.mem_cons_self
      · exact List.mem_cons_of_mem _ (ih found)

theorem mem_insert {entry : String × α} (among : entry ∈ insert key value entries) :
    entry = (key, value) ∨ entry ∈ entries := by
  induction entries with
  | nil => exact .inl (List.mem_singleton.mp among)
  | cons first rest ih =>
      unfold insert at among
      split at among
      · exact List.mem_cons.mp among
      · split at among
        · rcases List.mem_cons.mp among with here | later
          · exact .inl here
          · exact .inr (List.mem_cons_of_mem _ later)
        · rcases List.mem_cons.mp among with here | later
          · rw [here]
            exact .inr List.mem_cons_self
          · exact (ih later).imp_right (List.mem_cons_of_mem _)

variable {pairs before : List (String × α)}

theorem mem_foldl_insert {entry : String × α}
    (among : entry ∈ pairs.foldl (fun entries pair => insert pair.1 pair.2 entries) before) :
    entry ∈ before ∨ entry ∈ pairs := by
  induction pairs generalizing before with
  | nil => exact .inl among
  | cons pair pairs ih =>
      rcases ih among with inserted | later
      · rcases mem_insert inserted with here | earlier
        · exact .inr (here ▸ List.mem_cons_self)
        · exact .inl earlier
      · exact .inr (List.mem_cons_of_mem _ later)

theorem mem_ofList {entry : String × α} (among : entry ∈ ofList pairs) : entry ∈ pairs :=
  (mem_foldl_insert among).resolve_left List.not_mem_nil

/-- A key behind all others goes to the end. -/
theorem insert_last {key : String} {value : α} (last : ∀ entry ∈ before, entry.1 < key) :
    insert key value before = before ++ [(key, value)] := by
  induction before with
  | nil => rfl
  | cons entry before ih =>
      rw [List.forall_mem_cons] at last
      have other : key ≠ entry.1 := fun same => String.lt_irrefl key (same ▸ last.1)
      rw [insert, if_neg (String.lt_asymm last.1), if_neg other, ih last.2, List.cons_append]

theorem foldl_insert_sorted (sorted : ((before ++ pairs).map Prod.fst).Pairwise (· < ·)) :
    pairs.foldl (fun entries pair => insert pair.1 pair.2 entries) before = before ++ pairs := by
  induction pairs generalizing before with
  | nil => exact (List.append_nil before).symm
  | cons pair pairs ih =>
      have last : ∀ entry ∈ before, entry.1 < pair.1 := by
        rw [List.map_append, List.pairwise_append] at sorted
        exact fun entry among => sorted.2.2 _ (List.mem_map_of_mem among) _ List.mem_cons_self
      rw [List.foldl_cons, insert_last last, ih (by simpa using sorted), List.append_assoc,
        List.singleton_append]

/-- Pairs in the order of their keys are a dictionary as they are. -/
theorem ofList_eq_self (sorted : (pairs.map Prod.fst).Pairwise (· < ·)) : ofList pairs = pairs :=
  @foldl_insert_sorted _ pairs [] sorted

end Dictionary

namespace Value

/-! ## Changes of names -/

mutual

/-- The value with the names in its functions changed. -/
def relabel (label : Name → Name) (value : Value) : Value :=
  match value with
  | integer i => .integer i
  | float x => .float x
  | text s => .text s
  | boolean b => .boolean b
  | null => .null
  | list items => .list (relabelItems label items)
  | map entries => .map (relabelEntries label entries)
  | function parameters body => .function (parameters.map label) (body.relabel label)
termination_by structural value

def relabelItems (label : Name → Name) (items : List Value) : List Value :=
  match items with
  | [] => []
  | item :: items => item.relabel label :: relabelItems label items
termination_by structural items

def relabelEntries (label : Name → Name) (entries : List (String × Value)) :
    List (String × Value) :=
  match entries with
  | [] => []
  | entry :: entries => relabelEntry label entry :: relabelEntries label entries
termination_by structural entries

def relabelEntry (label : Name → Name) (entry : String × Value) : String × Value :=
  match entry with
  | (key, value) => (key, value.relabel label)
termination_by structural entry

end

variable {label : Name → Name}

@[simp] theorem relabelItems_eq_map (items : List Value) :
    relabelItems label items = items.map (relabel label) := by
  induction items with
  | nil => rfl
  | cons item items ih => rw [relabelItems, ih, List.map_cons]

/-- Dictionaries with the functions in their values changed. -/
abbrev inEntries (change : Value → Value) (entries : List (String × Value)) :
    List (String × Value) := entries.map fun entry => (entry.1, change entry.2)

@[simp] theorem relabelEntries_eq_map (entries : List (String × Value)) :
    relabelEntries label entries = inEntries (relabel label) entries := by
  induction entries with
  | nil => rfl
  | cons entry entries ih =>
      obtain ⟨key, value⟩ := entry
      rw [relabelEntries, relabelEntry, ih, inEntries, inEntries, List.map_cons]

theorem relabel_id (value : Value) : value.relabel id = value := by
  induction value using induction_members with
  | step value ih =>
    cases value with
    | list items =>
        have fixed : ∀ item ∈ items, item.relabel id = item := ih
        rw [relabel, relabelItems_eq_map, (List.map_congr_left fixed).trans items.map_id]
    | map entries =>
        have fixed : ∀ entry ∈ entries, (entry.1, entry.2.relabel id) = entry := fun entry among =>
          congrArg (Prod.mk entry.1) (ih entry.2 (List.mem_map_of_mem among))
        rw [relabel, relabelEntries_eq_map, inEntries,
          (List.map_congr_left fixed).trans entries.map_id]
    | function parameters body => rw [relabel, parameters.map_id, body.relabel_id]
    | _ => rfl

theorem relabel_id_eq : relabel id = id := funext relabel_id

@[simp] theorem isTruthy_relabel (value : Value) :
    (value.relabel label).isTruthy = value.isTruthy := by
  cases value <;> simp [relabel, isTruthy]

/-! ## Equality and display -/

section

variable {change : Value → Value}

theorem looselyEqualItems_map {vs : List Value}
    (kept : ∀ v ∈ vs, ∀ w, (change v).looselyEquals (change w) = v.looselyEquals w)
    (ws : List Value) :
    looselyEqualItems (vs.map change) (ws.map change) = looselyEqualItems vs ws := by
  induction vs generalizing ws with
  | nil => cases ws <;> rfl
  | cons v vs ih =>
      rw [List.forall_mem_cons] at kept
      cases ws with
      | nil => rfl
      | cons w ws => simp only [List.map_cons, looselyEqualItems, kept.1, ih kept.2]

theorem looselyEqualEntries_map {vs : List (String × Value)}
    (kept : ∀ v ∈ vs.map Prod.snd, ∀ w, (change v).looselyEquals (change w) = v.looselyEquals w)
    (ws : List (String × Value)) :
    looselyEqualEntries (inEntries change vs) (inEntries change ws)
      = looselyEqualEntries vs ws := by
  induction vs generalizing ws with
  | nil => cases ws <;> rfl
  | cons v vs ih =>
      rw [List.map_cons, List.forall_mem_cons] at kept
      cases ws with
      | nil => rfl
      | cons w ws =>
          obtain ⟨key, v⟩ := v
          obtain ⟨other, w⟩ := w
          simp only [inEntries, List.map_cons, looselyEqualEntries, looselyEqualEntry, kept.1,
            ih kept.2]

theorem itemPieces_map {items : List Value}
    (kept : ∀ item ∈ items, ∀ inside, (change item).pieces inside = item.pieces inside) :
    itemPieces (items.map change) = itemPieces items := by
  induction items with
  | nil => rfl
  | cons item items ih =>
      rw [List.forall_mem_cons] at kept
      simp only [List.map_cons, itemPieces, kept.1, ih kept.2, List.isEmpty_map]

theorem entryPieces_map {entries : List (String × Value)}
    (kept : ∀ value ∈ entries.map Prod.snd,
      ∀ inside, (change value).pieces inside = value.pieces inside) :
    entryPieces (inEntries change entries) = entryPieces entries := by
  induction entries with
  | nil => rfl
  | cons entry entries ih =>
      rw [List.map_cons, List.forall_mem_cons] at kept
      obtain ⟨key, value⟩ := entry
      simp only [inEntries, List.map_cons, entryPieces, pairPieces, kept.1, ih kept.2,
        List.isEmpty_map]

end

/-- Functions are compared as trees. -/
theorem looselyEquals_relabel (plain : Name.Plain label) (v w : Value) :
    (v.relabel label).looselyEquals (w.relabel label) = v.looselyEquals w := by
  induction v using induction_members generalizing w with
  | step v ih =>
    cases v with
    | list items =>
        cases w with
        | list others =>
            rw [relabel, relabel, relabelItems_eq_map, relabelItems_eq_map]
            exact looselyEqualItems_map ih others
        | _ => rfl
    | map entries =>
        cases w with
        | map others =>
            rw [relabel, relabel, relabelEntries_eq_map, relabelEntries_eq_map]
            exact looselyEqualEntries_map ih others
        | _ => rfl
    | function parameters body =>
        cases w with
        | function others other =>
            simp only [relabel, looselyEquals, Name.sameAll, plain.map_text,
              Node.same_relabel plain]
        | _ => rfl
    | _ => cases w <;> rfl

/-- A function is displayed by the texts of its parameters. -/
theorem pieces_relabel (plain : Name.Plain label) (value : Value) (inside : Bool) :
    (value.relabel label).pieces inside = value.pieces inside := by
  induction value using induction_members generalizing inside with
  | step value ih =>
    cases value with
    | list items =>
        have kept : itemPieces (items.map (relabel label)) = itemPieces items := itemPieces_map ih
        rw [relabel, relabelItems_eq_map, pieces, kept, pieces]
    | map entries => rw [relabel, relabelEntries_eq_map, pieces, entryPieces_map ih, pieces]
    | function parameters body => rw [relabel, pieces, plain.map_text, pieces]
    | _ => rfl

/-! ## Results without functions -/

/-- Whether a value is neither a container nor a function. -/
def isFlat : Value → Bool
  | list _ | map _ | function .. => false
  | _ => true

theorem relabel_of_isFlat {value : Value} (flat : value.isFlat) : value.relabel label = value := by
  cases value <;> first | rfl | cases flat

theorem throughout_of_isFlat {holds : Node → Prop} {value : Value} (flat : value.isFlat) :
    value.Throughout holds := by
  apply throughout_of_functions_eq_nil
  cases value <;> first | rfl | cases flat

end Value

/-- Whatever the result is, it is neither a container nor a function. -/
def FlatResult (result : Except RuntimeError Value) : Prop :=
  ∀ value, result = .ok value → value.isFlat

theorem FlatResult.error (error : RuntimeError) : FlatResult (.error error) := nofun

theorem FlatResult.ok {value : Value} (flat : value.isFlat) : FlatResult (.ok value) := by
  rintro _ ⟨⟩
  exact flat

theorem FlatResult.map_relabel {result : Except RuntimeError Value} (flat : FlatResult result)
    (label : Name → Name) : result.map (Value.relabel label) = result := by
  cases result with
  | error error => rfl
  | ok value => exact congrArg Except.ok (Value.relabel_of_isFlat (flat value rfl))

/-! ## Operators -/

namespace Operator

variable {label : Name → Name} {holds : Node → Prop} {operator : Operator}
  {left right result : Value}

theorem isFlat_exactOr (result : Int) (approximation : Binary64) :
    (exactOr result approximation).isFlat := by
  unfold exactOr
  split <;> rfl

theorem arithmetic_flat (operator : Operator) (onIntegers : Int → Int → Int)
    (onFloats : Binary64 → Binary64 → Binary64) (left right : Value) :
    FlatResult (operator.arithmetic onIntegers onFloats left right) := by
  unfold arithmetic
  split
  · exact .ok (isFlat_exactOr _ _)
  · split
    · exact .ok rfl
    · exact .error _

theorem quotient_flat (left right : Value) : FlatResult (quotient left right) := by
  unfold quotient
  split
  · simp only
    split
    · exact .error _
    · split
      · exact .ok (isFlat_exactOr _ _)
      · exact .ok rfl
  · split
    · split
      · exact .error _
      · exact .ok rfl
    · exact .error _

theorem compared_flat (chosen : Ordering → Bool) (left right : Value) :
    FlatResult (operator.compared chosen left right) := by
  unfold compared
  cases operator.order left right with
  | error error => exact .error error
  | ok ordering => exact .ok rfl

theorem unary_flat (operand : Value) : FlatResult (operator.unary operand) := by
  unfold unary
  split
  · exact .ok rfl
  · split
    · exact .ok (isFlat_exactOr _ _)
    · exact .ok rfl
    · exact .error _
  · exact .error _

theorem arithmetic_relabel (onIntegers : Int → Int → Int)
    (onFloats : Binary64 → Binary64 → Binary64) (left right : Value) :
    operator.arithmetic onIntegers onFloats (left.relabel label) (right.relabel label)
      = operator.arithmetic onIntegers onFloats left right := by
  cases left <;> cases right <;> rfl

theorem quotient_relabel (left right : Value) :
    quotient (left.relabel label) (right.relabel label) = quotient left right := by
  cases left <;> cases right <;> rfl

theorem compared_relabel (chosen : Ordering → Bool) (left right : Value) :
    operator.compared chosen (left.relabel label) (right.relabel label)
      = operator.compared chosen left right := by
  have ordered : operator.order (left.relabel label) (right.relabel label)
      = operator.order left right := by
    cases left <;> cases right <;> rfl
  rw [compared, ordered, compared]

theorem add_relabel (left right : Value) :
    add (left.relabel label) (right.relabel label)
      = (add left right).map (Value.relabel label) := by
  have sum := (arithmetic_flat .plus (· + ·) Binary64.add left right).map_relabel label
  cases left with
  | list items =>
      cases right with
      | list others =>
          simp only [Value.relabel, Value.relabelItems_eq_map, add, Except.map, List.map_append]
      | _ => exact sum.symm
  | _ => cases right <;> first | rfl | exact sum.symm

/-- What an operator yields is not determined by where names stand. -/
theorem binary_relabel (plain : Name.Plain label) (left right : Value) :
    operator.binary (left.relabel label) (right.relabel label)
      = (operator.binary left right).map (Value.relabel label) := by
  cases operator with
  | and | or =>
      simp only [binary, Value.isTruthy_relabel, Except.map]
      split <;> rfl
  | equal | notEqual =>
      simp only [binary, Value.looselyEquals_relabel plain]
      rfl
  | lessThan | lessThanEqual | greaterThan | greaterThanEqual =>
      rw [binary, compared_relabel, binary, (compared_flat _ left right).map_relabel]
  | plus => exact add_relabel left right
  | minus | times =>
      rw [binary, arithmetic_relabel, binary, (arithmetic_flat _ _ _ left right).map_relabel]
  | divide => rw [binary, quotient_relabel, binary, (quotient_flat left right).map_relabel]
  | not | negate => rfl

theorem unary_relabel (operand : Value) :
    operator.unary (operand.relabel label)
      = (operator.unary operand).map (Value.relabel label) := by
  rw [(unary_flat operand).map_relabel]
  cases operator with
  | not => simp only [unary, Value.isTruthy_relabel]
  | negate => cases operand <;> rfl
  | _ => rfl

/-- The functions in the result of an operator were in its operands. -/
theorem throughout_binary (left_holds : left.Throughout holds)
    (right_holds : right.Throughout holds) (made : operator.binary left right = .ok result) :
    result.Throughout holds := by
  cases operator with
  | and | or =>
      obtain rfl := Except.ok.inj made
      split
      · assumption
      · assumption
  | equal | notEqual =>
      obtain rfl := Except.ok.inj made
      exact Value.throughout_of_isFlat rfl
  | lessThan | lessThanEqual | greaterThan | greaterThanEqual =>
      exact Value.throughout_of_isFlat (compared_flat _ left right result made)
  | plus =>
      have sum (added : arithmetic .plus (· + ·) .add left right = .ok result) :
          result.Throughout holds :=
        Value.throughout_of_isFlat (arithmetic_flat _ _ _ left right result added)
      simp only [binary, add] at made
      split at made
      · obtain rfl := Except.ok.inj made
        exact Value.throughout_of_isFlat rfl
      · obtain rfl := Except.ok.inj made
        rw [Value.throughout_list] at left_holds right_holds ⊢
        intro item among
        rcases List.mem_append.mp among with first | second
        · exact left_holds item first
        · exact right_holds item second
      · exact sum made
  | minus | times =>
      exact Value.throughout_of_isFlat (arithmetic_flat _ _ _ left right result made)
  | divide => exact Value.throughout_of_isFlat (quotient_flat left right result made)
  | not | negate => cases made

end Operator

/-! ## Indices -/

namespace Value

variable {label : Name → Name} {holds : Node → Prop} {base index result : Value}

theorem itemAt_map {α β : Type} (change : α → β) (items : List α) (position : Int64) :
    itemAt (items.map change) position = (itemAt items position).map change := by
  simp only [itemAt, List.length_map, List.getElem?_map]
  split
  · rfl
  · cases items[position.toInt.toNat]? <;> rfl

theorem mem_of_itemAt {α : Type} {items : List α} {position : Int64} {item : α}
    (taken : itemAt items position = .ok item) : item ∈ items := by
  simp only [itemAt] at taken
  split at taken
  · cases taken
  · split at taken
    · rename_i found
      obtain rfl := Except.ok.inj taken
      exact List.mem_of_getElem? found
    · cases taken

theorem elementAt_relabel (base : Value) (position : Int64) :
    (base.relabel label).elementAt position = (base.elementAt position).map (relabel label) := by
  cases base with
  | list items => rw [relabel, relabelItems_eq_map, elementAt, itemAt_map, elementAt]
  | text s =>
      simp only [relabel, elementAt]
      cases itemAt s.toList position <;> rfl
  | _ => rfl

theorem find?_inEntries (change : Value → Value) (key : String)
    (entries : List (String × Value)) :
    Dictionary.find? key (inEntries change entries)
      = (Dictionary.find? key entries).map change := by
  induction entries with
  | nil => rfl
  | cons entry entries ih =>
      simp only [inEntries, List.map_cons, Dictionary.find?]
      split
      · rfl
      · exact ih

theorem inEntries_insert (change : Value → Value) (key : String) (value : Value)
    (entries : List (String × Value)) :
    inEntries change (Dictionary.insert key value entries)
      = Dictionary.insert key (change value) (inEntries change entries) := by
  induction entries with
  | nil => rfl
  | cons entry entries ih =>
      simp only [inEntries, List.map_cons, Dictionary.insert]
      split
      · rfl
      · split
        · rfl
        · rw [List.map_cons]
          exact congrArg _ ih

/-- What an index takes is not determined by where names stand. -/
theorem indexed_relabel (base index : Value) :
    (base.relabel label).indexed (index.relabel label)
      = (base.indexed index).map (relabel label) := by
  cases index with
  | integer i => exact elementAt_relabel base i
  | float x =>
      simp only [relabel, indexed]
      cases x.toInt? with
      | none => rfl
      | some i => exact elementAt_relabel base _
  | text key =>
      cases base with
      | map entries =>
          simp only [relabel, relabelEntries_eq_map, indexed, find?_inEntries]
          cases Dictionary.find? key entries <;> rfl
      | _ => rfl
  | _ => rfl

theorem throughout_elementAt {position : Int64} (base_holds : base.Throughout holds)
    (taken : base.elementAt position = .ok result) : result.Throughout holds := by
  cases base with
  | list items => exact throughout_list.mp base_holds result (mem_of_itemAt taken)
  | text s =>
      simp only [elementAt] at taken
      cases outcome : itemAt s.toList position with
      | error error =>
          rw [outcome] at taken
          cases taken
      | ok c =>
          rw [outcome] at taken
          obtain rfl := Except.ok.inj taken
          exact throughout_of_isFlat rfl
  | _ => cases taken

/-- What an index takes was in the value that is indexed. -/
theorem throughout_indexed (base_holds : base.Throughout holds)
    (taken : base.indexed index = .ok result) : result.Throughout holds := by
  cases index with
  | integer i => exact throughout_elementAt base_holds taken
  | float x =>
      simp only [indexed] at taken
      split at taken
      · exact throughout_elementAt base_holds taken
      · cases taken
  | text key =>
      cases base with
      | map entries =>
          simp only [indexed] at taken
          split at taken
          · rename_i found
            obtain rfl := Except.ok.inj taken
            exact throughout_map.mp base_holds _ (Dictionary.mem_of_find? found)
          · cases taken
      | _ => cases taken
  | _ => cases taken

end Value

end Scriptlet
