import TreeTemplate.Proofs.Expansion.Outline
import TreeTemplate.Proofs.Markup.Text

/-!
# The text of flattened trees

Both modes of evaluation flatten a tree, and writing does not need this: joins, concatenations and
groups have a text of their own, which is that of their members.  So a tree without placeholders is
written in the same pieces before and after it is evaluated (`Node.flatMap_pieces_flattened`).  Only
the value of an attribute may be written in another way: it is left out or written as a bare name if
it is directly nothing or a truth value, and a sequence of less than two members collapses to just
that.
-/

namespace TreeTemplate

namespace Fragment

/-- Two nodes or more make a concatenation as an attribute value. -/
lemma toAttribute_of_two_le {fragment : Fragment} (many : 2 ≤ fragment.length) :
    toAttribute fragment = .concat fragment := by
  match fragment, many with
  | _ :: _ :: _, _ => rfl

/-- The pieces of a root are those of the nodes it was made of. -/
lemma pieces_toRoot (fragment : Fragment) :
    (toRoot fragment).pieces = fragment.flatMap Node.pieces := by
  match fragment with
  | [] => rfl
  | [node] => exact (List.flatMap_singleton _ node).symm
  | first :: second :: rest => exact Node.pieces_group _

end Fragment

namespace Node

/-- Whether a node only says how its members stand in the row around them. -/
def isSequence : Node → Bool
  | .join _ | .concat _ | .group _ => true
  | _ => false

/-- Every sequence that is the value of an attribute has two members or more, wherever the element
is, counted after nested sequences are flattened. -/
def AttributesSpread (node : Node) : Prop :=
  ∀ tag attrs children, (element tag attrs children).OccursIn node →
    ∀ attr ∈ attrs.getD [], attr.2.isSequence → 2 ≤ attr.2.flattened.length

/-- Where attribute values are spread out in a tree, they are in each part. -/
lemma AttributesSpread.part {node : Node} (spread : node.AttributesSpread) :
    ∀ part ∈ node.parts, part.AttributesSpread :=
  fun _ member tag attrs children occurs => spread tag attrs children (.part member occurs)

/-- The value of an attribute is written alike before and after it is flattened and collapsed. -/
lemma attributePieces_flattened {attr : String × Node}
    (spread : attr.2.isSequence → 2 ≤ attr.2.flattened.length)
    (same : attr.2.flattened.flatMap pieces = attr.2.pieces) :
    attributePieces (attr.1, Fragment.toAttribute attr.2.flattened) = attributePieces attr := by
  obtain ⟨name, node⟩ := attr
  -- values that are written alike in quotes are so as attributes
  have quoted : ∀ other : Node, other.attributeForm = .quoted → other.pieces = node.pieces →
      node.attributeForm = .quoted → attributePieces (name, other) = attributePieces (name, node) := by
    intro other form written form'
    rw [attributePieces, attributePieces, form, form', written]
  cases node with
  | join nodes | concat nodes | group nodes =>
    rw [Fragment.toAttribute_of_two_le (spread rfl)]
    exact quoted _ rfl ((pieces_concat _).trans same) rfl
  | element tag attrs children =>
    rw [flattened_element] at same ⊢
    exact quoted _ rfl ((List.flatMap_singleton _ _).symm.trans same) rfl
  | block | var | raw | literal | unescaped => rfl

/-- Joined nodes are written as their rows with spaces between them. -/
lemma flatMap_pieces_spaced {nodes : List Node}
    (each : ∀ node ∈ nodes, node.flattened.flatMap pieces = node.pieces) :
    (Fragment.spaced (nodes.map flattened)).flatMap pieces = (join nodes).pieces := by
  cases nodes with
  | nil => rfl
  | cons first rest =>
    obtain ⟨head, tail⟩ := List.forall_mem_cons.1 each
    rw [List.map_cons, Fragment.spaced, intercalate_cons_eq_flatMap, List.flatMap_append, head,
      List.flatMap_map, List.flatMap_assoc, pieces_join_cons]
    refine congrArg (first.pieces ++ ·) (List.flatMap_congr fun node among => ?_)
    rw [List.flatMap_append, tail node among]
    rfl

/-- A tree is written in the same pieces as the row of its flattened members. -/
theorem flatMap_pieces_flattened {node : Node} (spread : node.AttributesSpread) :
    node.flattened.flatMap pieces = node.pieces := by
  induction node with
  | element tag attrs children ihAttrs ihChildren =>
    obtain ⟨inAttrs, inChildren⟩ := forall_mem_parts_element.1 spread.part
    have attributes : ((attrs.map flattenedAttrs).getD []).flatMap attributePieces =
        (attrs.getD []).flatMap attributePieces := by
      have each : ∀ attr ∈ attrs.getD [],
          attributePieces (attr.1, Fragment.toAttribute attr.2.flattened) = attributePieces attr :=
        fun attr among => attributePieces_flattened (spread tag attrs children .self attr among)
          (ihAttrs attr among (inAttrs attr among))
      cases attrs with
      | none => rfl
      | some attrs =>
        rw [Option.map_some, Option.getD_some, flattenedAttrs_eq_map, List.flatMap_map]
        exact List.flatMap_congr each
    have row : (children.flatMap flattened).flatMap pieces = children.flatMap pieces := by
      rw [List.flatMap_assoc]
      exact List.flatMap_congr fun child among => ihChildren child among (inChildren child among)
    rw [flattened_element, List.flatMap_singleton, pieces_element, pieces_element, attributes, row]
  | join nodes ih =>
    rw [flattened_join]
    exact flatMap_pieces_spaced fun node among => ih node among (spread.part node among)
  | concat nodes ih =>
    rw [flattened_concat, List.flatMap_assoc, pieces_concat]
    exact List.flatMap_congr fun node among => ih node among (spread.part node among)
  | group nodes ih =>
    rw [flattened_group, List.flatMap_assoc, pieces_group]
    exact List.flatMap_congr fun node among => ih node among (spread.part node among)
  | literal value | unescaped value => rw [flattened, List.flatMap_singleton]
  | var | raw | block => rfl

/-- Both modes of evaluation make of a tree the same text as is written for the tree itself. -/
lemma toText_outline {node : Node} (spread : node.AttributesSpread) :
    node.outline.toText = node.toText := by
  rw [toText_eq_textOf, toText_eq_textOf, outline, Fragment.pieces_toRoot,
    flatMap_pieces_flattened spread]

section

variable {node : Node} (resolved : ∀ inner : Node, inner.OccursIn node → inner.isPlaceholder = false)

include resolved

/-- A resolved tree has no block. -/
lemma blockFree_of_resolved : node.BlockFree :=
  fun _ _ _ occurs => Bool.noConfusion (resolved _ occurs)

/-- Nothing is filled in where a tree is resolved. -/
lemma filled_of_resolved (escaped unescaped : Path → Node) :
    node.filled escaped unescaped = node :=
  filled_eq_self (fun _ occurs => Bool.noConfusion (resolved _ occurs))
    (fun _ occurs => Bool.noConfusion (resolved _ occurs))

/-- A tree without placeholders expands to its flattened members. -/
lemma expandWith_of_resolved (value : Path → Value)
    (meaning : (helper : String) → (arg : Path) → (body : List Node) → Except Error Fragment) :
    node.expandWith value meaning = .ok node.flattened := by
  rw [expandWith_blockFree (blockFree_of_resolved resolved), filled_of_resolved resolved]

/-- A tree without placeholders is rendered to its flattened members. -/
lemma tokenized_of_resolved : node.tokenized = node.flattened := by
  rw [tokenized_blockFree (blockFree_of_resolved resolved), filled_of_resolved resolved]

end

end Node

/-- Evaluation does not change what a tree without placeholders prints, if the sequences in its
attributes have two members or more.  Both modes give one tree in every engine and context, and it has
the same text as the tree that was evaluated, or fails to be written with the same error. -/
theorem Engine.toText_expandFrom_toSyntax (engine : Engine) {template : Node}
    (resolved : ∀ inner : Node, inner.OccursIn template → inner.isPlaceholder = false)
    (spread : template.AttributesSpread) (context : Value) :
    ∃ node, engine.expandFrom (.tree template) context = .ok node
      ∧ engine.toSyntax (.tree template) = .ok node ∧ node.toText = template.toText := by
  refine ⟨template.outline, ?_, ?_, Node.toText_outline spread⟩
  · rw [expandFrom_tree_eq_run, Expansion.run_eq_expandWith,
      Node.expandWith_of_resolved resolved]
    rfl
  · rw [toSyntax_tree, Node.toSyntax, Node.tokenized_of_resolved resolved]
    rfl

-- a sequence of a single truth value becomes a bare name
example :
    let node : Node := .element "a" (some [("b", .group [.literal (.bool true)])]) []
    node.toText = .ok "<a b=\x22true\x22></a>" ∧ node.outline.toText = .ok "<a b></a>" :=
  ⟨rfl, rfl⟩

/-- A space counts as a member, so that nothing joined to a truth value is written in quotes; a map is
reported at the same place before and after the sequence around it is gone. -/
theorem Engine.toText_expandFrom_toSyntax_of_joined_title :
    let title : Node := .join [.literal (.bool true), .group []]
    let image : Node := .element "img" (some [("alt", .literal .none), ("title", title)]) []
    let figure : Node := .group [.concat [.join [image, .literal (.string "<")]]]
    let shown : Node :=
      .group [.element "img"
          (some [("alt", .literal .none), ("title", .concat [.literal (.bool true), .space])]) [],
        .space, .literal (.string "<")]
    let broken : Node := .concat [.element "p" none [.group [.unescaped (.list [.map []])]]]
    (∀ inner : Node, inner.OccursIn figure → inner.isPlaceholder = false)
      ∧ figure.AttributesSpread
      ∧ Engine.empty.expandFrom (.tree figure) .none = .ok shown
      ∧ figure.toText = .ok "<img title=\x22true \x22></img> &lt;"
      ∧ shown.toText = .ok "<img title=\x22true \x22></img> &lt;"
      ∧ (∀ inner : Node, inner.OccursIn broken → inner.isPlaceholder = false)
      ∧ broken.AttributesSpread
      ∧ ∃ node, Engine.new.expandFrom (.tree broken) .none = .ok node
        ∧ Engine.new.toSyntax (.tree broken) = .ok node
        ∧ node.toText = .error ⟨.unformattable .map, [.element "p"], none⟩ := by
  intro title image figure shown broken
  have resolved : ∀ inner : Node, inner.OccursIn figure → inner.isPlaceholder = false := by
    intro inner occurs
    simp only [figure, image, title, Node.occursIn_element, Node.occursIn_join,
      Node.occursIn_concat, Node.occursIn_group, Node.occursIn_literal, Option.getD_some,
      List.mem_cons, List.not_mem_nil, or_false, exists_eq_left, exists_eq_or_imp, false_and,
      exists_false] at occurs
    obtain rfl | rfl | rfl | (rfl | rfl | rfl | rfl | rfl) | rfl := occurs <;> rfl
  have spread : figure.AttributesSpread := by
    intro tag attrs children occurs attr among sequence
    simp only [figure, image, title, Node.occursIn_group, Node.occursIn_concat, Node.occursIn_join,
      Node.occursIn_element, Node.occursIn_literal, reduceCtorEq, Node.element.injEq,
      Option.getD_some, List.mem_cons, List.not_mem_nil, exists_eq_left, exists_eq_or_imp,
      false_and, exists_false, or_false, false_or] at occurs
    obtain ⟨rfl, rfl, rfl⟩ := occurs
    rw [Option.getD_some, List.mem_pair] at among
    obtain rfl | rfl := among
    · cases sequence
    · exact Nat.le_refl 2
  have resolvedBroken : ∀ inner : Node, inner.OccursIn broken → inner.isPlaceholder = false := by
    simp [broken, Node.isPlaceholder]
  have spreadBroken : broken.AttributesSpread := by
    intro tag attrs children occurs attr among
    simp only [broken, Node.occursIn_concat, Node.occursIn_element, Node.occursIn_group,
      Node.occursIn_unescaped, reduceCtorEq, Node.element.injEq, Option.getD_none, List.mem_cons,
      List.not_mem_nil, exists_eq_left, false_and, exists_false, or_false, false_or] at occurs
    obtain ⟨rfl, rfl, rfl⟩ := occurs
    cases among
  have expands : Engine.empty.expandFrom (.tree figure) .none = .ok shown := rfl
  have text : figure.toText = .ok "<img title=\x22true \x22></img> &lt;" := rfl
  obtain ⟨node, result, -, same⟩ := toText_expandFrom_toSyntax .empty resolved spread .none
  obtain rfl : shown = node := Except.ok.inj (expands.symm.trans result)
  obtain ⟨node, result, placeholders, fails⟩ :=
    toText_expandFrom_toSyntax .new resolvedBroken spreadBroken .none
  exact ⟨resolved, spread, expands, text, same.trans text, resolvedBroken, spreadBroken, node, result,
    placeholders, fails⟩

end TreeTemplate
