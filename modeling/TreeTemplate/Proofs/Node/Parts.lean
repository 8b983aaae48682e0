import Mathlib.Data.List.Basic
import TreeTemplate.Node

/-!
# Parts of trees

The nodes directly inside a node are its parts, and a node occurs in another if a chain of parts
leads to it.  `Node.Everywhere` is the property of having a property at each place of the tree; it
holds of a node if the property does and it holds everywhere in the parts
(`Node.everywhere_iff`).

Trees and values are nested in lists and pairs, so their induction is stated once here, with what
holds of the parts as a statement on the members of those lists.
-/

namespace TreeTemplate

/-- Induction on values: what holds of a list or a map may be shown from the values inside. -/
@[induction_eliminator]
theorem Value.induction {motive : Value → Prop}
    (none : motive .none)
    (bool : ∀ b, motive (.bool b))
    (integer : ∀ n, motive (.integer n))
    (float : ∀ x, motive (.float x))
    (string : ∀ text, motive (.string text))
    (list : ∀ items, (∀ item ∈ items, motive item) → motive (.list items))
    (map : ∀ entries, (∀ entry ∈ entries, motive entry.2) → motive (.map entries))
    (value : Value) : motive value :=
  Value.rec (motive_1 := motive) (motive_2 := fun items => ∀ item ∈ items, motive item)
    (motive_3 := fun entries => ∀ entry ∈ entries, motive entry.2)
    (motive_4 := fun entry => motive entry.2)
    none bool integer float string list map
    (List.forall_mem_nil _) (fun _ _ head tail => List.forall_mem_cons.2 ⟨head, tail⟩)
    (List.forall_mem_nil _) (fun _ _ head tail => List.forall_mem_cons.2 ⟨head, tail⟩)
    (fun _ _ value => value) value

namespace Node

/-- Induction on trees: what holds of a node may be shown from its parts. -/
@[induction_eliminator]
theorem induction {motive : Node → Prop}
    (element : ∀ tag attrs children, (∀ attr ∈ attrs.getD [], motive attr.2) →
      (∀ child ∈ children, motive child) → motive (.element tag attrs children))
    (var : ∀ path, motive (.var path))
    (raw : ∀ path, motive (.raw path))
    (block : ∀ helper arg body, (∀ node ∈ body, motive node) → motive (.block helper arg body))
    (join : ∀ children, (∀ child ∈ children, motive child) → motive (.join children))
    (concat : ∀ children, (∀ child ∈ children, motive child) → motive (.concat children))
    (group : ∀ children, (∀ child ∈ children, motive child) → motive (.group children))
    (literal : ∀ value, motive (.literal value))
    (unescaped : ∀ value, motive (.unescaped value))
    (node : Node) : motive node :=
  Node.rec (motive_1 := motive) (motive_2 := fun attrs => ∀ attr ∈ attrs.getD [], motive attr.2)
    (motive_3 := fun nodes => ∀ node ∈ nodes, motive node)
    (motive_4 := fun attrs => ∀ attr ∈ attrs, motive attr.2)
    (motive_5 := fun attr => motive attr.2)
    element var raw block join concat group literal unescaped
    (List.forall_mem_nil _) (fun _ attrs => attrs)
    (List.forall_mem_nil _) (fun _ _ head tail => List.forall_mem_cons.2 ⟨head, tail⟩)
    (List.forall_mem_nil _) (fun _ _ head tail => List.forall_mem_cons.2 ⟨head, tail⟩)
    (fun _ _ node => node) node

/-- The nodes directly inside a node, in document order. -/
def parts : Node → List Node
  | .element _ attrs children => (attrs.getD []).map Prod.snd ++ children
  | .block _ _ body => body
  | .join nodes | .concat nodes | .group nodes => nodes
  | .var _ | .raw _ | .literal _ | .unescaped _ => []

/-- The path that a node holds itself. -/
def path? : Node → Option Path
  | .var path | .raw path | .block _ path _ => some path
  | .element _ _ _ | .join _ | .concat _ | .group _ | .literal _ | .unescaped _ => none

/-- The parts of an element are the values of its attributes and its children. -/
lemma forall_mem_parts_element {P : Node → Prop} {tag : String}
    {attrs : Option (List (String × Node))} {children : List Node} :
    (∀ part ∈ (element tag attrs children).parts, P part) ↔
      (∀ attr ∈ attrs.getD [], P attr.2) ∧ ∀ child ∈ children, P child := by
  rw [parts, List.forall_mem_append, List.forall_mem_map]

/-- Induction on trees without regard to their kinds. -/
theorem parts_induction {motive : Node → Prop}
    (step : ∀ node : Node, (∀ part ∈ node.parts, motive part) → motive node) (node : Node) :
    motive node := by
  induction node with
  | element tag attrs children ihAttrs ihChildren =>
    exact step _ (forall_mem_parts_element.2 ⟨ihAttrs, ihChildren⟩)
  | block helper arg body ih => exact step _ ih
  | join children ih | concat children ih | group children ih => exact step _ ih
  | var path | raw path | literal value | unescaped value =>
    exact step _ (List.forall_mem_nil _)

/-- A node occurs in a tree if it is the tree, or occurs in one of the parts. -/
inductive OccursIn (inner : Node) : Node → Prop where
  | self : OccursIn inner inner
  | part {node part : Node} : part ∈ node.parts → OccursIn inner part → OccursIn inner node

/-- What occurs in a node occurs wherever the node does. -/
lemma OccursIn.trans {inner node root : Node} (deeper : inner.OccursIn node)
    (occurs : node.OccursIn root) : inner.OccursIn root := by
  induction occurs with
  | self => exact deeper
  | part member _ ih => exact .part member ih

/-- A node occurs in itself and in whatever has a part that it occurs in. -/
lemma occursIn_iff {inner node : Node} :
    inner.OccursIn node ↔ inner = node ∨ ∃ part ∈ node.parts, inner.OccursIn part := by
  constructor
  · intro occurs
    cases occurs with
    | self => exact .inl rfl
    | part member occurs => exact .inr ⟨_, member, occurs⟩
  · rintro (rfl | ⟨part, member, occurs⟩)
    · exact .self
    · exact .part member occurs

/-- Nothing but the node itself occurs in a node without parts. -/
lemma occursIn_leaf {inner node : Node} (leaf : node.parts = []) :
    inner.OccursIn node ↔ inner = node := by
  rw [occursIn_iff, leaf]
  simp only [List.not_mem_nil, false_and, exists_false, or_false]

section

variable {inner : Node} {tag helper : String} {arg path : Path} {value : Value}
  {attrs : Option (List (String × Node))} {nodes : List Node}

/-- What occurs in an element is the element or occurs in an attribute value or a child. -/
@[simp]
lemma occursIn_element :
    inner.OccursIn (element tag attrs nodes) ↔
      inner = element tag attrs nodes ∨ (∃ attr ∈ attrs.getD [], inner.OccursIn attr.2)
        ∨ ∃ node ∈ nodes, inner.OccursIn node := by
  rw [occursIn_iff, parts]
  simp only [List.mem_append, List.mem_map, or_and_right, exists_or, exists_exists_and_eq_and]

/-- What occurs in a block is the block or occurs in its body. -/
@[simp]
lemma occursIn_block :
    inner.OccursIn (block helper arg nodes) ↔
      inner = block helper arg nodes ∨ ∃ node ∈ nodes, inner.OccursIn node :=
  occursIn_iff

@[simp]
lemma occursIn_join :
    inner.OccursIn (join nodes) ↔ inner = join nodes ∨ ∃ node ∈ nodes, inner.OccursIn node :=
  occursIn_iff

@[simp]
lemma occursIn_concat :
    inner.OccursIn (concat nodes) ↔ inner = concat nodes ∨ ∃ node ∈ nodes, inner.OccursIn node :=
  occursIn_iff

@[simp]
lemma occursIn_group :
    inner.OccursIn (group nodes) ↔ inner = group nodes ∨ ∃ node ∈ nodes, inner.OccursIn node :=
  occursIn_iff

@[simp]
lemma occursIn_literal : inner.OccursIn (literal value) ↔ inner = literal value :=
  occursIn_leaf rfl

@[simp]
lemma occursIn_unescaped : inner.OccursIn (unescaped value) ↔ inner = unescaped value :=
  occursIn_leaf rfl

@[simp]
lemma occursIn_var : inner.OccursIn (var path) ↔ inner = var path :=
  occursIn_leaf rfl

@[simp]
lemma occursIn_raw : inner.OccursIn (raw path) ↔ inner = raw path :=
  occursIn_leaf rfl

end

/-- A property holds at every place of a tree. -/
def Everywhere (P : Node → Prop) (node : Node) : Prop :=
  ∀ inner : Node, inner.OccursIn node → P inner

variable {P : Node → Prop}

/-- A property holds everywhere if it holds of the node and everywhere in its parts. -/
lemma everywhere_iff {node : Node} :
    node.Everywhere P ↔ P node ∧ ∀ part ∈ node.parts, part.Everywhere P := by
  constructor
  · intro h
    exact ⟨h node .self, fun part member inner occurs => h inner (.part member occurs)⟩
  · rintro ⟨here, parts⟩ inner occurs
    cases occurs with
    | self => exact here
    | part member occurs => exact parts _ member inner occurs

/-- What holds everywhere in a node holds everywhere in its parts. -/
lemma Everywhere.part {node : Node} (h : node.Everywhere P) :
    ∀ part ∈ node.parts, part.Everywhere P :=
  (everywhere_iff.1 h).2

/-- What holds everywhere in a node holds everywhere in whatever occurs in it. -/
lemma Everywhere.of_occursIn {node root : Node} (h : root.Everywhere P)
    (occurs : node.OccursIn root) : node.Everywhere P :=
  fun inner deeper => h inner (deeper.trans occurs)

/-- A property that passes from each node to its parts holds everywhere if it holds of the node. -/
lemma everywhere_of_parts (parts : ∀ node : Node, P node → ∀ part ∈ node.parts, P part)
    {node : Node} (here : P node) : node.Everywhere P := by
  induction node using parts_induction with
  | step node ih =>
    exact everywhere_iff.2 ⟨here, fun part member => ih part member (parts node here part member)⟩

/-- No node of a kind occurs in a tree. -/
def Without {α : Type} (kind : α → Node) (node : Node) : Prop :=
  ∀ a, ¬ (kind a).OccursIn node

/-- The parts of a node without nodes of a kind are without them. -/
lemma Without.part {α : Type} {kind : α → Node} {node : Node} (h : node.Without kind) :
    ∀ part ∈ node.parts, part.Without kind :=
  fun _ member a occurs => h a (.part member occurs)

/-- A tree has no block at any place. -/
def BlockFree (node : Node) : Prop :=
  ∀ helper arg body, ¬ (block helper arg body).OccursIn node

/-- The parts of a node without blocks are without blocks. -/
lemma BlockFree.part {node : Node} (free : node.BlockFree) : ∀ part ∈ node.parts, part.BlockFree :=
  fun _ member helper arg body occurs => free helper arg body (.part member occurs)

/-- A tree has no element at any place. -/
def ElementFree (node : Node) : Prop :=
  ∀ tag attrs children, ¬ (element tag attrs children).OccursIn node

/-- The parts of a node without elements are without elements. -/
lemma ElementFree.part {node : Node} (free : node.ElementFree) :
    ∀ part ∈ node.parts, part.ElementFree :=
  fun _ member tag attrs children occurs => free tag attrs children (.part member occurs)

end Node

end TreeTemplate
