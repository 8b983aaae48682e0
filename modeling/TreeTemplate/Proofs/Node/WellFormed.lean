import TreeTemplate.Proofs.Node.Parts

/-!
# Well-formed trees

`Node.WellFormed` recurses into the rows of a tree and into its attributes.  Here it is stated by
membership: a row is well formed if each node in it is, and so are attributes.
-/

namespace TreeTemplate.Node

/-- A list of nodes is well-formed exactly if each node is. -/
lemma allWellFormed_iff {nodes : List Node} :
    AllWellFormed nodes ↔ ∀ node ∈ nodes, node.WellFormed := by
  induction nodes with
  | nil => simp [AllWellFormed]
  | cons node rest ih => rw [AllWellFormed, ih, List.forall_mem_cons]

/-- Attributes are well-formed exactly if each name is a tag name and each value is well-formed. -/
lemma attrsWellFormed_iff {attrs : List (String × Node)} :
    AttrsWellFormed attrs ↔ ∀ attr ∈ attrs, isTagName attr.1 ∧ attr.2.WellFormed := by
  induction attrs with
  | nil => simp [AttrsWellFormed]
  | cons attr rest ih => rw [AttrsWellFormed, ih, List.forall_mem_cons, and_assoc]

namespace WellFormed

variable {name : String} {attrs : Option (List (String × Node))} {children body : List Node}
  {path : Path}

/-- An element is well formed if its tag is a name, its attributes are named and in order, and its
parts are well formed. -/
lemma element_iff :
    (element name attrs children).WellFormed ↔
      isTagName name ∧ Entries.Sorted (attrs.getD [])
        ∧ (∀ attr ∈ attrs.getD [], isTagName attr.1 ∧ attr.2.WellFormed)
        ∧ ∀ child ∈ children, child.WellFormed := by
  cases attrs with
  | none => simp [WellFormed, allWellFormed_iff, Entries.Sorted]
  | some attrs => simp [WellFormed, allWellFormed_iff, attrsWellFormed_iff, and_assoc]

/-- A block is well formed if its helper is an identifier, its path valid, and its body well
formed. -/
lemma block_iff :
    (block name path body).WellFormed ↔
      isIdentifier name ∧ Path.ofText? path.text = some path ∧ ∀ node ∈ body, node.WellFormed := by
  rw [WellFormed, allWellFormed_iff]

/-- The parts of a well-formed tree are well-formed. -/
lemma part {node : Node} (wf : node.WellFormed) : ∀ part ∈ node.parts, part.WellFormed := by
  cases node with
  | element name attrs children =>
    obtain ⟨-, -, attr, child⟩ := element_iff.1 wf
    exact forall_mem_parts_element.2 ⟨fun a member => (attr a member).2, child⟩
  | block name path body => exact (block_iff.1 wf).2.2
  | join nodes | concat nodes | group nodes =>
    rw [WellFormed] at wf
    exact allWellFormed_iff.1 wf
  | var path | raw path | literal value | unescaped value => exact List.forall_mem_nil _

end WellFormed

end TreeTemplate.Node
