import TreeTemplate.Placeholders
import TreeTemplate.Proofs.Fragment
import TreeTemplate.Proofs.Node.Parts

/-!
# Placeholder syntax, node by node

The equations of `Node.tokenized` with its walks over rows and attributes as maps of lists.
-/

namespace TreeTemplate.Node

/-- The syntax of a list of nodes is that of each, in order. -/
lemma tokenizedEach_eq_map (nodes : List Node) : tokenizedEach nodes = nodes.map tokenized := by
  induction nodes with
  | nil => rfl
  | cons node rest ih => rw [tokenizedEach, ih, List.map_cons]

/-- Attributes keep their names, and the syntax of each value is made one node again. -/
lemma tokenizedAttrs_eq_map (attrs : List (String × Node)) :
    tokenizedAttrs attrs =
      attrs.map fun attr => (attr.1, Fragment.toAttribute attr.2.tokenized) := by
  induction attrs with
  | nil => rfl
  | cons attr rest ih => rw [tokenizedAttrs, ih, List.map_cons]

/-- Attributes whose values are those of their renderings stay as they are. -/
lemma tokenizedAttrs_eq_self {attrs : Option (List (String × Node))}
    (each : ∀ attr ∈ attrs.getD [], Fragment.toAttribute attr.2.tokenized = attr.2) :
    attrs.map tokenizedAttrs = attrs := by
  cases attrs with
  | none => rfl
  | some attrs =>
    have same : ∀ attr ∈ attrs, (attr.1, Fragment.toAttribute attr.2.tokenized) = id attr :=
      fun attr member => congrArg (Prod.mk attr.1) (each attr member)
    rw [Option.map_some, tokenizedAttrs_eq_map, List.map_congr_left same, List.map_id]

/-- The syntax of an element is an element with that of its attributes and children. -/
lemma tokenized_element (tag : String) (attrs : Option (List (String × Node)))
    (children : List Node) :
    (element tag attrs children).tokenized =
      [.element tag (attrs.map tokenizedAttrs) (children.flatMap tokenized)] := by
  rw [List.flatMap_def, ← tokenizedEach_eq_map]
  cases attrs with
  | none => rfl
  | some attrs => rfl

/-- The syntax of a block is that of its body between an opening and a closing. -/
lemma tokenized_block (helper : String) (arg : Path) (body : List Node) :
    (block helper arg body).tokenized =
      (Token.opening helper arg).toNode ::
        (body.flatMap tokenized ++ [(Token.closing helper).toNode]) := by
  rw [tokenized, tokenizedEach_eq_map, List.flatMap_def, List.cons_append]

lemma tokenized_concat (nodes : List Node) :
    (concat nodes).tokenized = nodes.flatMap tokenized := by
  rw [tokenized, tokenizedEach_eq_map, List.flatMap_def]

lemma tokenized_group (nodes : List Node) :
    (group nodes).tokenized = nodes.flatMap tokenized := by
  rw [tokenized, tokenizedEach_eq_map, List.flatMap_def]

/-- The syntax of a join is that of its members with a space between each two. -/
lemma tokenized_join (nodes : List Node) :
    (join nodes).tokenized = Fragment.spaced (nodes.map tokenized) := by
  rw [tokenized, tokenizedEach_eq_map]

end TreeTemplate.Node
