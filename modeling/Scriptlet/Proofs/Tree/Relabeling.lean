/-
# Proofs.Tree.Relabeling -- names read elsewhere

A name carries the position at which it was read.  `relabel` changes the names of a tree,
and `Plain` are the changes that leave the texts of names alone, such as moving them or
forgetting where they stood.  The language never looks at a position: whether two trees
are the same is untouched by a plain change of names (`same_relabel`).
-/
import Scriptlet.Proofs.Tree.Parts

namespace Scriptlet

set_option autoImplicit false

/-! ## Names -/

/-- A change of names that leaves their texts alone. -/
def Name.Plain (label : Name → Name) : Prop := ∀ name, (label name).text = name.text

theorem Name.Plain.id : Name.Plain id := fun _ => rfl

theorem Name.Plain.map_text {label : Name → Name} (plain : Name.Plain label)
    (names : List Name) : (names.map label).map Name.text = names.map Name.text := by
  rw [List.map_map]
  exact List.map_congr_left fun name _ => plain name

/-! ## Trees -/

namespace Node

mutual

/-- The tree with its names changed. -/
def relabel (label : Name → Name) (node : Node) : Node :=
  match node with
  | integer value => .integer value
  | float value => .float value
  | string value => .string value
  | boolean value => .boolean value
  | null => .null
  | identifier name => .identifier (label name)
  | binary operator left right => .binary operator (left.relabel label) (right.relabel label)
  | unary operator operand => .unary operator (operand.relabel label)
  | list elements => .list (relabelAll label elements)
  | map entries => .map (relabelEntries label entries)
  | print value => .print (relabelOption label value)
  | assign target value => .assign (label target) (value.relabel label)
  | branch condition consequence alternative =>
      .branch (condition.relabel label) (consequence.relabel label)
        (relabelOption label alternative)
  | loop condition body => .loop (condition.relabel label) (body.relabel label)
  | result value => .result (relabelOption label value)
  | block statements => .block (relabelAll label statements)
  | program statements => .program (relabelAll label statements)
  | function parameters body => .function (parameters.map label) (body.relabel label)
  | call callee arguments => .call (callee.relabel label) (relabelAll label arguments)
  | index base position => .index (base.relabel label) (relabelOption label position)
termination_by structural node

def relabelAll (label : Name → Name) (nodes : List Node) : List Node :=
  match nodes with
  | [] => []
  | node :: nodes => node.relabel label :: relabelAll label nodes
termination_by structural nodes

def relabelEntries (label : Name → Name) (entries : List (String × Node)) :
    List (String × Node) :=
  match entries with
  | [] => []
  | entry :: entries => relabelEntry label entry :: relabelEntries label entries
termination_by structural entries

def relabelEntry (label : Name → Name) (entry : String × Node) : String × Node :=
  match entry with
  | (key, value) => (key, value.relabel label)
termination_by structural entry

def relabelOption (label : Name → Name) (node : Option Node) : Option Node :=
  match node with
  | none => none
  | some node => some (node.relabel label)
termination_by structural node

end

variable {label : Name → Name}

@[simp] theorem relabelAll_eq_map (nodes : List Node) :
    relabelAll label nodes = nodes.map (relabel label) := by
  induction nodes with
  | nil => rfl
  | cons node nodes ih => rw [relabelAll, ih, List.map_cons]

@[simp] theorem relabelEntries_eq_map (entries : List (String × Node)) :
    relabelEntries label entries = entries.map fun entry => (entry.1, entry.2.relabel label) := by
  induction entries with
  | nil => rfl
  | cons entry entries ih =>
      obtain ⟨key, value⟩ := entry
      rw [relabelEntries, relabelEntry, ih, List.map_cons]

@[simp] theorem relabelOption_eq_map (node : Option Node) :
    relabelOption label node = node.map (relabel label) := by
  cases node <;> rfl

/-! ## Changes inside a tree -/

/-- The tree with its own names and its children changed. -/
def mapChildren (label : Name → Name) (change : Node → Node) : Node → Node
  | identifier name => .identifier (label name)
  | binary operator left right => .binary operator (change left) (change right)
  | unary operator operand => .unary operator (change operand)
  | list elements => .list (elements.map change)
  | map entries => .map (entries.map fun entry => (entry.1, change entry.2))
  | print value => .print (value.map change)
  | assign target value => .assign (label target) (change value)
  | branch condition consequence alternative =>
      .branch (change condition) (change consequence) (alternative.map change)
  | loop condition body => .loop (change condition) (change body)
  | result value => .result (value.map change)
  | block statements => .block (statements.map change)
  | program statements => .program (statements.map change)
  | function parameters body => .function (parameters.map label) (change body)
  | call callee arguments => .call (change callee) (arguments.map change)
  | index base position => .index (change base) (position.map change)
  | node => node

theorem relabel_eq (node : Node) :
    node.relabel label = node.mapChildren label (relabel label) := by
  cases node <;> simp [relabel, mapChildren]

theorem mapChildren_congr {node : Node} {change other : Node → Node}
    (same : ∀ child ∈ node.children, change child = other child) :
    node.mapChildren label change = node.mapChildren label other := by
  have option {inner : Option Node} (same : ∀ node ∈ inner.toList, change node = other node) :
      inner.map change = inner.map other := by
    cases inner <;> simp_all
  cases node with
  | print value | result value => simp [mapChildren, option same]
  | branch condition consequence alternative =>
      simp only [children, List.forall_mem_cons] at same
      simp [mapChildren, same.1, same.2.1, option same.2.2]
  | index base position =>
      simp only [children, List.forall_mem_cons] at same
      simp [mapChildren, same.1, option same.2]
  | map entries =>
      simp only [mapChildren, map.injEq]
      exact List.map_congr_left fun entry among =>
        congrArg (Prod.mk entry.1) (same entry.2 (List.mem_map_of_mem among))
  | _ => simp_all [mapChildren, children]

/-- A change of all trees that goes through their children changes the names. -/
theorem eq_relabel (change : Node → Node)
    (goes : ∀ node, change node = node.mapChildren label change) (node : Node) :
    change node = node.relabel label := by
  induction node using induction_children with
  | step node ih => rw [goes, relabel_eq, mapChildren_congr ih]

theorem relabel_id (node : Node) : node.relabel id = node := by
  refine (eq_relabel id (fun node => ?_) node).symm
  cases node <;> simp [mapChildren]

/-- Two changes of names one after the other. -/
theorem relabel_relabel (node : Node) (first second : Name → Name) :
    (node.relabel first).relabel second = node.relabel (second ∘ first) := by
  refine eq_relabel (fun node => (node.relabel first).relabel second) (fun node => ?_) node
  cases node <;> simp [relabel, mapChildren, Function.comp_def]

/-! ## The same program -/

section

variable {change : Node → Node}

theorem sameAll_map {xs : List Node}
    (kept : ∀ x ∈ xs, ∀ y, (change x).same (change y) = x.same y) (ys : List Node) :
    sameAll (xs.map change) (ys.map change) = sameAll xs ys := by
  induction xs generalizing ys with
  | nil => cases ys <;> rfl
  | cons x xs ih =>
      rw [List.forall_mem_cons] at kept
      cases ys with
      | nil => rfl
      | cons y ys => simp only [List.map_cons, sameAll, kept.1, ih kept.2]

theorem sameEntries_map {xs : List (String × Node)}
    (kept : ∀ x ∈ xs.map Prod.snd, ∀ y, (change x).same (change y) = x.same y)
    (ys : List (String × Node)) :
    sameEntries (xs.map fun entry => (entry.1, change entry.2))
      (ys.map fun entry => (entry.1, change entry.2)) = sameEntries xs ys := by
  induction xs generalizing ys with
  | nil => cases ys <;> rfl
  | cons x xs ih =>
      rw [List.map_cons, List.forall_mem_cons] at kept
      cases ys with
      | nil => rfl
      | cons y ys =>
          obtain ⟨key, x⟩ := x
          obtain ⟨other, y⟩ := y
          simp only [List.map_cons, sameEntries, sameEntry, kept.1, ih kept.2]

theorem sameOptions_map {x : Option Node}
    (kept : ∀ inner ∈ x.toList, ∀ y, (change inner).same (change y) = inner.same y)
    (y : Option Node) : sameOptions (x.map change) (y.map change) = sameOptions x y := by
  cases x <;> cases y <;> simp_all [sameOptions]

end

/-- Whether two trees are the same program does not depend on where their names stand. -/
theorem same_relabel (plain : Name.Plain label) (x y : Node) :
    (x.relabel label).same (y.relabel label) = x.same y := by
  have parameters : ∀ names others, Name.sameAll (names.map label) (others.map label)
      = Name.sameAll names others := by
    intro names others
    rw [Name.sameAll, plain.map_text, plain.map_text, Name.sameAll]
  induction x using induction_children generalizing y with
  | step x ih =>
    cases x with
    | map entries =>
        cases y with
        | map others => simpa [relabel, same] using sameEntries_map ih others
        | _ => rfl
    | _ =>
        cases y <;> first
          | rfl
          | simp_all [relabel, same, children, plain _, sameAll_map, sameOptions_map]

end Node

end Scriptlet
