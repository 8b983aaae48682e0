import TreeTemplate.Proofs.Fragment
import TreeTemplate.Proofs.Node.Parts

/-!
# Flattened trees

Joins, concatenations and groups only say how their members stand in the row around them.
`Node.flattened` puts the members there, at every place of a tree, and collapses the row that an
attribute value becomes.  What is left is the part of a template that both modes of evaluation work
on: the same placeholders, elements and values in the same order, with nothing around them.
-/

namespace TreeTemplate.Node

mutual

/-- The members of the row that a node stands for, with placeholders left as they are. -/
def flattened : Node → Fragment
  | .element tag attrs children =>
    let attrs := match attrs with
      | none => none
      | some attrs => some (flattenedAttrs attrs)
    [.element tag attrs (flattenedEach children).flatten]
  | .block helper arg body => [.block helper arg (flattenedEach body).flatten]
  | .join children => Fragment.spaced (flattenedEach children)
  | .concat children => (flattenedEach children).flatten
  | .group children => (flattenedEach children).flatten
  | .var path => [.var path]
  | .raw path => [.raw path]
  | .literal value => [.literal value]
  | .unescaped value => [.unescaped value]
termination_by structural node => node

/-- The members of the rows that the nodes of a row stand for. -/
def flattenedEach : List Node → List Fragment
  | [] => []
  | node :: rest => node.flattened :: flattenedEach rest
termination_by structural nodes => nodes

/-- Attributes with collapsed rows as their values. -/
def flattenedAttrs : List (String × Node) → List (String × Node)
  | [] => []
  | (name, node) :: rest => (name, Fragment.toAttribute node.flattened) :: flattenedAttrs rest
termination_by structural attrs => attrs

end

/-- A list of nodes is flattened node by node. -/
lemma flattenedEach_eq_map (nodes : List Node) : flattenedEach nodes = nodes.map flattened := by
  induction nodes with
  | nil => rfl
  | cons node rest ih => rw [flattenedEach, ih, List.map_cons]

/-- Attributes keep their names, and each flattened value is made one node again. -/
lemma flattenedAttrs_eq_map (attrs : List (String × Node)) :
    flattenedAttrs attrs =
      attrs.map fun attr => (attr.1, Fragment.toAttribute attr.2.flattened) := by
  induction attrs with
  | nil => rfl
  | cons attr rest ih => rw [flattenedAttrs, ih, List.map_cons]

/-- An element is flattened inside, and its children become one row. -/
lemma flattened_element (tag : String) (attrs : Option (List (String × Node)))
    (children : List Node) :
    (element tag attrs children).flattened =
      [.element tag (attrs.map flattenedAttrs) (children.flatMap flattened)] := by
  rw [List.flatMap_def, ← flattenedEach_eq_map]
  cases attrs with
  | none => rfl
  | some attrs => rfl

lemma flattened_block (helper : String) (arg : Path) (body : List Node) :
    (block helper arg body).flattened = [.block helper arg (body.flatMap flattened)] := by
  rw [flattened, flattenedEach_eq_map, List.flatMap_def]

lemma flattened_concat (nodes : List Node) :
    (concat nodes).flattened = nodes.flatMap flattened := by
  rw [flattened, flattenedEach_eq_map, List.flatMap_def]

lemma flattened_group (nodes : List Node) :
    (group nodes).flattened = nodes.flatMap flattened := by
  rw [flattened, flattenedEach_eq_map, List.flatMap_def]

/-- A join is a row of its flattened members with spaces between them. -/
lemma flattened_join (nodes : List Node) :
    (join nodes).flattened = Fragment.spaced (nodes.map flattened) := by
  rw [flattened, flattenedEach_eq_map]

end TreeTemplate.Node
