/-
# Proofs.Tree.Parts -- the trees inside a tree

`Node.parts` are all trees inside a tree, itself and those in the bodies of functions
included, and what holds of every one of them holds `Throughout` the tree.  A tree is gone
through by its `children`: what holds throughout a tree holds of the tree and throughout
its children (`throughout_iff`), and induction may go from the children to the tree
(`induction_children`).

A value has trees inside it as well, those of the functions that it contains, and its
`members` if it is a list or a map.
-/
import Scriptlet.Value

namespace Scriptlet

set_option autoImplicit false

namespace Node

/-! ## Parts of trees -/

/-- The trees directly inside a tree. -/
def children : Node → List Node
  | binary _ left right => [left, right]
  | unary _ operand => [operand]
  | list elements => elements
  | map entries => entries.map Prod.snd
  | print value | result value => value.toList
  | assign _ value => [value]
  | branch condition consequence alternative => condition :: consequence :: alternative.toList
  | loop condition body => [condition, body]
  | block statements | program statements => statements
  | function _ body => [body]
  | call callee arguments => callee :: arguments
  | index base position => base :: position.toList
  | _ => []

theorem sizeOf_lt_of_mem_children {node child : Node} (among : child ∈ node.children) :
    sizeOf child < sizeOf node := by
  have optional {inner : Option Node} (inside : child ∈ inner.toList) :
      sizeOf child < sizeOf inner := by
    obtain rfl := Option.mem_toList.mp inside
    simp only [Option.some.sizeOf_spec]
    omega
  cases node with
  | map entries =>
      obtain ⟨⟨key, value⟩, inside, rfl⟩ := List.mem_map.mp among
      have smaller := List.sizeOf_lt_of_mem inside
      simp only [Prod.mk.sizeOf_spec] at smaller
      simp only [Node.map.sizeOf_spec]
      omega
  | list items | block items | program items =>
      have smaller : sizeOf child < sizeOf items := List.sizeOf_lt_of_mem among
      simp only [Node.list.sizeOf_spec, Node.block.sizeOf_spec, Node.program.sizeOf_spec]
      omega
  | call callee arguments =>
      simp only [Node.call.sizeOf_spec]
      rcases List.mem_cons.mp among with rfl | inside
      · omega
      · have smaller := List.sizeOf_lt_of_mem inside
        omega
  | print value | result value =>
      have smaller := optional among
      simp only [Node.print.sizeOf_spec, Node.result.sizeOf_spec]
      omega
  | branch condition consequence alternative =>
      simp only [Node.branch.sizeOf_spec]
      rcases List.mem_cons.mp among with rfl | among
      · omega
      · rcases List.mem_cons.mp among with rfl | inside
        · omega
        · have smaller := optional inside
          omega
  | index base position =>
      simp only [Node.index.sizeOf_spec]
      rcases List.mem_cons.mp among with rfl | inside
      · omega
      · have smaller := optional inside
        omega
  | binary _ first second | loop first second =>
      simp only [Node.binary.sizeOf_spec, Node.loop.sizeOf_spec]
      rcases List.mem_cons.mp among with rfl | among
      · omega
      · obtain rfl := List.mem_singleton.mp among
        omega
  | unary _ inner | assign _ inner | function _ inner =>
      obtain rfl := List.mem_singleton.mp among
      simp only [Node.unary.sizeOf_spec, Node.assign.sizeOf_spec, Node.function.sizeOf_spec]
      omega
  | integer | float | string | boolean | null | identifier => cases among

/-- What holds of a tree if it holds of its children holds of every tree. -/
@[elab_as_elim]
theorem induction_children {motive : Node → Prop}
    (step : ∀ node, (∀ child ∈ node.children, motive child) → motive node) (node : Node) :
    motive node :=
  step node fun child _ => induction_children step child
termination_by sizeOf node
decreasing_by exact sizeOf_lt_of_mem_children ‹_›

mutual

/-- All trees inside a tree, the tree itself first. -/
def parts (node : Node) : List Node :=
  node :: match node with
  | binary _ left right => left.parts ++ right.parts
  | unary _ operand => operand.parts
  | list elements => partsAll elements
  | map entries => partsEntries entries
  | print (some value) | assign _ value | result (some value) => value.parts
  | branch condition consequence none => condition.parts ++ consequence.parts
  | branch condition consequence (some alternative) =>
      condition.parts ++ (consequence.parts ++ alternative.parts)
  | loop condition body => condition.parts ++ body.parts
  | block statements | program statements => partsAll statements
  | function _ body => body.parts
  | call callee arguments => callee.parts ++ partsAll arguments
  | index base none => base.parts
  | index base (some position) => base.parts ++ position.parts
  | _ => []
termination_by structural node

def partsAll (nodes : List Node) : List Node :=
  match nodes with
  | [] => []
  | node :: nodes => node.parts ++ partsAll nodes
termination_by structural nodes

def partsEntries (entries : List (String × Node)) : List Node :=
  match entries with
  | [] => []
  | entry :: entries => partsEntry entry ++ partsEntries entries
termination_by structural entries

def partsEntry (entry : String × Node) : List Node :=
  match entry with
  | (_, value) => value.parts
termination_by structural entry

end

theorem partsAll_eq_flatMap (nodes : List Node) : partsAll nodes = nodes.flatMap parts := by
  induction nodes with
  | nil => rfl
  | cons node nodes ih => rw [partsAll, ih, List.flatMap_cons]

theorem partsEntries_eq_flatMap (entries : List (String × Node)) :
    partsEntries entries = (entries.map Prod.snd).flatMap parts := by
  induction entries with
  | nil => rfl
  | cons entry entries ih =>
      obtain ⟨key, value⟩ := entry
      rw [partsEntries, partsEntry, ih, List.map_cons, List.flatMap_cons]

/-- The parts of a tree are the tree and the parts of its children. -/
theorem parts_eq (node : Node) : node.parts = node :: node.children.flatMap parts := by
  cases node with
  | print value | result value => cases value <;> simp [parts, children]
  | branch _ _ alternative => cases alternative <;> simp [parts, children]
  | index _ position => cases position <;> simp [parts, children]
  | _ => simp [parts, children, partsAll_eq_flatMap, partsEntries_eq_flatMap]

variable {holds : Node → Prop} {node : Node}

/-- What holds of every part of a tree. -/
def Throughout (holds : Node → Prop) (node : Node) : Prop := ∀ part ∈ node.parts, holds part

theorem throughout_iff :
    node.Throughout holds ↔ holds node ∧ ∀ child ∈ node.children, child.Throughout holds := by
  unfold Throughout
  rw [parts_eq, List.forall_mem_cons]
  refine and_congr_right fun _ => ?_
  constructor
  · intro within child among part inside
    exact within part (List.mem_flatMap.mpr ⟨child, among, inside⟩)
  · intro within part inside
    obtain ⟨child, among, deeper⟩ := List.mem_flatMap.mp inside
    exact within child among part deeper

theorem Throughout.here (within : node.Throughout holds) : holds node :=
  (throughout_iff.mp within).1

theorem Throughout.child {child : Node} (within : node.Throughout holds)
    (among : child ∈ node.children) : child.Throughout holds :=
  (throughout_iff.mp within).2 child among

theorem Throughout.imp {weaker : Node → Prop} (within : node.Throughout holds)
    (implies : ∀ part, holds part → weaker part) : node.Throughout weaker :=
  fun part inside => implies part (within part inside)

instance [DecidablePred holds] : DecidablePred (Throughout holds) :=
  fun node => inferInstanceAs (Decidable (∀ part ∈ node.parts, holds part))

/-! ## Names -/

/-- The names in a tree that are in none of its children. -/
def ownNames : Node → List String
  | identifier name => [name.text]
  | assign target _ => [target.text]
  | function parameters _ => parameters.map Name.text
  | _ => []

/-- All names in a tree, those in its functions and their parameters included. -/
def names (node : Node) : List String := node.parts.flatMap ownNames

theorem throughout_ownNames_iff {among : String → Prop} :
    (node.Throughout fun part => ∀ name ∈ part.ownNames, among name)
      ↔ ∀ name ∈ node.names, among name := by
  simp only [Throughout, names, List.mem_flatMap]
  exact ⟨fun within name ⟨part, inside, own⟩ => within part inside name own,
    fun within part inside name own => within name ⟨part, inside, own⟩⟩

end Node

/-! ## Functions in values -/

namespace Value

/-- The values directly inside a container. -/
def members : Value → List Value
  | list items => items
  | map entries => entries.map Prod.snd
  | _ => []

theorem sizeOf_lt_of_mem_members {value member : Value} (among : member ∈ value.members) :
    sizeOf member < sizeOf value := by
  cases value with
  | map entries =>
      obtain ⟨⟨key, value⟩, inside, rfl⟩ := List.mem_map.mp among
      have smaller := List.sizeOf_lt_of_mem inside
      simp only [Prod.mk.sizeOf_spec] at smaller
      simp only [Value.map.sizeOf_spec]
      omega
  | list items =>
      have smaller : sizeOf member < sizeOf items := List.sizeOf_lt_of_mem among
      simp only [Value.list.sizeOf_spec]
      omega
  | _ => cases among

/-- What holds of a value if it holds of its members holds of every value. -/
@[elab_as_elim]
theorem induction_members {motive : Value → Prop}
    (step : ∀ value, (∀ member ∈ value.members, motive member) → motive value) (value : Value) :
    motive value :=
  step value fun member _ => induction_members step member
termination_by sizeOf value
decreasing_by exact sizeOf_lt_of_mem_members ‹_›

mutual

/-- The functions that a value contains, with their parameters and bodies. -/
def functions (value : Value) : List (List Name × Node) :=
  match value with
  | list items => functionsAll items
  | map entries => functionsEntries entries
  | function parameters body => [(parameters, body)]
  | _ => []
termination_by structural value

def functionsAll (items : List Value) : List (List Name × Node) :=
  match items with
  | [] => []
  | item :: items => item.functions ++ functionsAll items
termination_by structural items

def functionsEntries (entries : List (String × Value)) : List (List Name × Node) :=
  match entries with
  | [] => []
  | entry :: entries => functionsEntry entry ++ functionsEntries entries
termination_by structural entries

def functionsEntry (entry : String × Value) : List (List Name × Node) :=
  match entry with
  | (_, value) => value.functions
termination_by structural entry

end

theorem functionsAll_eq_flatMap (items : List Value) :
    functionsAll items = items.flatMap functions := by
  induction items with
  | nil => rfl
  | cons item items ih => rw [functionsAll, ih, List.flatMap_cons]

theorem functionsEntries_eq_flatMap (entries : List (String × Value)) :
    functionsEntries entries = (entries.map Prod.snd).flatMap functions := by
  induction entries with
  | nil => rfl
  | cons entry entries ih =>
      obtain ⟨key, value⟩ := entry
      rw [functionsEntries, functionsEntry, ih, List.map_cons, List.flatMap_cons]

variable {holds : Node → Prop}

/-- What holds throughout every function that a value contains. -/
def Throughout (holds : Node → Prop) (value : Value) : Prop :=
  ∀ inner ∈ value.functions, (Node.function inner.1 inner.2).Throughout holds

theorem throughout_list {items : List Value} :
    (list items).Throughout holds ↔ ∀ item ∈ items, item.Throughout holds := by
  simp only [Throughout, functions, functionsAll_eq_flatMap, List.mem_flatMap]
  exact ⟨fun within item among inner inside => within inner ⟨item, among, inside⟩,
    fun within inner ⟨item, among, inside⟩ => within item among inner inside⟩

theorem throughout_map {entries : List (String × Value)} :
    (map entries).Throughout holds ↔ ∀ entry ∈ entries, entry.2.Throughout holds := by
  simp only [Throughout, functions, functionsEntries_eq_flatMap, List.mem_flatMap, List.mem_map]
  constructor
  · intro within entry among inner inside
    exact within inner ⟨entry.2, ⟨entry, among, rfl⟩, inside⟩
  · rintro within inner ⟨_, ⟨entry, among, rfl⟩, inside⟩
    exact within entry among inner inside

theorem throughout_function {parameters : List Name} {body : Node} :
    (function parameters body).Throughout holds
      ↔ (Node.function parameters body).Throughout holds := by
  simp [Throughout, functions]

/-- A value that is neither a function nor a container has no trees in it. -/
theorem throughout_of_functions_eq_nil {value : Value} (none : value.functions = []) :
    value.Throughout holds := by
  intro inner inside
  rw [none] at inside
  cases inside

instance [DecidablePred holds] : DecidablePred (Throughout holds) := fun value =>
  inferInstanceAs
    (Decidable (∀ inner ∈ value.functions, (Node.function inner.1 inner.2).Throughout holds))

/-- All names in the functions that a value contains. -/
def names (value : Value) : List String :=
  value.functions.flatMap fun inner => (Node.function inner.1 inner.2).names

theorem throughout_ownNames_iff {value : Value} {among : String → Prop} :
    (value.Throughout fun part => ∀ name ∈ part.ownNames, among name)
      ↔ ∀ name ∈ value.names, among name := by
  simp only [Throughout, names, List.mem_flatMap, Node.throughout_ownNames_iff]
  exact ⟨fun within name ⟨inner, inside, named⟩ => within inner inside name named,
    fun within inner inside name named => within name ⟨inner, inside, named⟩⟩

end Value

end Scriptlet
