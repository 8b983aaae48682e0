import TreeTemplate.Proofs.Expansion.Calls
import TreeTemplate.Proofs.Expansion.Step

/-!
# Blocks replaced by a tree

`Node.inlined` puts a tree in the place of every block with a given helper, wherever in a template the
block is, and leaves everything else as it is.  If the tree does not call the helper itself, the
result does not either (`Node.not_calls_inlined`).  To expand the result is to expand the template
with the expansion of the replacement as the meaning of its blocks (`Node.expandWith_inlined`).
-/

namespace TreeTemplate.Node

mutual

/-- Replaces every block with a helper of this name by a tree. -/
def inlined (name : String) (tree : Node) : Node → Node
  | .element tag attrs children =>
    let attrs := match attrs with
      | none => none
      | some attrs => some (inlinedAttrs name tree attrs)
    .element tag attrs (inlinedEach name tree children)
  | .var path => .var path
  | .raw path => .raw path
  | .block helper arg body =>
    if helper = name then tree else .block helper arg (inlinedEach name tree body)
  | .join children => .join (inlinedEach name tree children)
  | .concat children => .concat (inlinedEach name tree children)
  | .group children => .group (inlinedEach name tree children)
  | .literal value => .literal value
  | .unescaped value => .unescaped value
termination_by structural node => node

/-- Replaces the blocks in each node of a row. -/
def inlinedEach (name : String) (tree : Node) : List Node → List Node
  | [] => []
  | node :: rest => inlined name tree node :: inlinedEach name tree rest
termination_by structural nodes => nodes

/-- Replaces the blocks in the values of attributes. -/
def inlinedAttrs (name : String) (tree : Node) : List (String × Node) → List (String × Node)
  | [] => []
  | (key, node) :: rest => (key, inlined name tree node) :: inlinedAttrs name tree rest
termination_by structural attrs => attrs

end

variable {name : String} {tree : Node}

/-- A tree is inlined into a list of nodes node by node. -/
lemma inlinedEach_eq_map (nodes : List Node) :
    inlinedEach name tree nodes = nodes.map (inlined name tree) := by
  induction nodes with
  | nil => rfl
  | cons node rest ih => rw [inlinedEach, ih, List.map_cons]

/-- Attributes keep their names when a tree is inlined into their values. -/
lemma inlinedAttrs_eq_map (attrs : List (String × Node)) :
    inlinedAttrs name tree attrs = attrs.map fun attr => (attr.1, inlined name tree attr.2) := by
  induction attrs with
  | nil => rfl
  | cons attr rest ih => rw [inlinedAttrs, ih, List.map_cons]

lemma inlined_element (tag : String) (attrs : Option (List (String × Node)))
    (children : List Node) :
    inlined name tree (element tag attrs children) =
      .element tag (attrs.map (inlinedAttrs name tree)) (children.map (inlined name tree)) := by
  rw [← inlinedEach_eq_map]
  cases attrs with
  | none => rfl
  | some attrs => rfl

/-- A block that calls the name is replaced by the tree, with its argument and body. -/
lemma inlined_block_self (arg : Path) (body : List Node) :
    inlined name tree (block name arg body) = tree := by
  rw [inlined, if_pos rfl]

/-- Any other block keeps its helper and argument, and the tree is inlined into its body. -/
lemma inlined_block_other {helper : String} (other : helper ≠ name) (arg : Path)
    (body : List Node) :
    inlined name tree (block helper arg body) =
      .block helper arg (body.map (inlined name tree)) := by
  rw [inlined, if_neg other, inlinedEach_eq_map]

lemma inlined_join (nodes : List Node) :
    inlined name tree (join nodes) = .join (nodes.map (inlined name tree)) := by
  rw [inlined, inlinedEach_eq_map]

lemma inlined_concat (nodes : List Node) :
    inlined name tree (concat nodes) = .concat (nodes.map (inlined name tree)) := by
  rw [inlined, inlinedEach_eq_map]

lemma inlined_group (nodes : List Node) :
    inlined name tree (group nodes) = .group (nodes.map (inlined name tree)) := by
  rw [inlined, inlinedEach_eq_map]

/-- Where a node stays as it is but for its parts, these are replaced one by one. -/
lemma parts_inlined {node : Node} (other : ∀ arg body, node ≠ block name arg body) :
    (inlined name tree node).parts = node.parts.map (inlined name tree) := by
  cases node with
  | element tag attrs children =>
    rw [inlined_element, parts, parts, List.map_append, List.map_map]
    cases attrs with
    | none => rfl
    | some attrs =>
      rw [Option.map_some, inlinedAttrs_eq_map, Option.getD_some, Option.getD_some, List.map_map]
      rfl
  | block helper arg body =>
    have otherName : helper ≠ name := by
      rintro rfl
      exact other arg body rfl
    rw [inlined_block_other otherName]
    rfl
  | join nodes | concat nodes | group nodes =>
    simp only [inlined_join, inlined_concat, inlined_group, parts]
  | var | raw | literal | unescaped => rfl

/-- A node that is no block with the helper does not become one. -/
lemma inlined_ne_block {node : Node} (other : ∀ arg body, node ≠ block name arg body)
    (arg : Path) (body : List Node) : inlined name tree node ≠ block name arg body := by
  intro same
  cases node with
  | block helper arg' body' =>
    have otherName : helper ≠ name := by
      rintro rfl
      exact other arg' body' rfl
    rw [inlined_block_other otherName] at same
    cases same
    exact otherName rfl
  | element tag attrs children =>
    rw [inlined_element] at same
    cases same
  | var | raw | join | concat | group | literal | unescaped =>
    rw [inlined] at same
    cases same

/-- No block with the helper is left if the tree in the place of these blocks has none. -/
lemma not_calls_inlined (uncalled : ¬ tree.Calls name) (node : Node) :
    ¬ (inlined name tree node).Calls name := by
  induction node using parts_induction with
  | step node ih =>
    rintro ⟨arg, body, occurs⟩
    by_cases replaced : ∃ arg body, node = block name arg body
    · obtain ⟨arg', body', rfl⟩ := replaced
      rw [inlined_block_self] at occurs
      exact uncalled ⟨arg, body, occurs⟩
    · have other : ∀ arg body, node ≠ block name arg body :=
        fun arg body same => replaced ⟨arg, body, same⟩
      obtain same | ⟨part, among, inside⟩ := occursIn_iff.1 occurs
      · exact inlined_ne_block other arg body same.symm
      · rw [parts_inlined other] at among
        obtain ⟨original, inParts, rfl⟩ := List.mem_map.1 among
        exact ih original inParts ⟨arg, body, inside⟩

/-- A template with blocks replaced expands as the template does if its blocks mean what takes their
place. -/
lemma expandWith_inlined (value : Path → Value)
    (meaning : (helper : String) → (arg : Path) → (body : List Node) → Except Error Fragment)
    (node : Node) :
    (inlined name tree node).expandWith value meaning =
      node.expandWith value fun helper arg body =>
        (inlined name tree (block helper arg body)).expandWith value meaning := by
  induction node with
  | element tag attrs children ihAttrs ihChildren =>
    have attrsInlined : (attrs.map (inlinedAttrs name tree)).mapM (expandAttrsWith value meaning) =
        attrs.mapM (expandAttrsWith value fun helper arg body =>
          (inlined name tree (block helper arg body)).expandWith value meaning) := by
      cases attrs with
      | none => rfl
      | some attrs =>
        rw [Option.map_some, Option.mapM_some, Option.mapM_some, expandAttrsWith_eq_mapM,
          expandAttrsWith_eq_mapM, inlinedAttrs_eq_map, List.mapM_map]
        refine congrArg (some <$> ·) (mapM_congr fun attr among => ?_)
        rw [Function.comp_apply, ihAttrs attr among]
    rw [inlined_element, expandWith_element, expandWith_element, expandWith_concat,
      expandWith_concat, List.mapM_map, attrsInlined, ← mapM_congr ihChildren]
    rfl
  | join nodes ih | concat nodes ih | group nodes ih =>
    simp only [inlined_join, inlined_concat, inlined_group, expandWith_join, expandWith_concat,
      expandWith_group, List.mapM_map]
    exact congrArg _ (mapM_congr ih)
  | block helper arg body => rw [expandWith]
  | var | raw | literal | unescaped => rfl

end TreeTemplate.Node
