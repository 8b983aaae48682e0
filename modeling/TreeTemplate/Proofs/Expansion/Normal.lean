import TreeTemplate.Helper.Stock
import TreeTemplate.Proofs.Engine
import TreeTemplate.Proofs.Expansion.Step
import TreeTemplate.Proofs.Placeholders.Step

/-!
# Expanded trees are in normal form

What expansion gives has nothing left to expand.  `Node.Settled` is the invariant of the members of
a row under construction: elements and values only, where the value of an attribute is settled or a
row of at least two settled nodes.  Whatever a helper returns is expanded in turn, so the invariant
needs no assumption on helpers: the nodes of a block come from a run with fewer blocks to be nested
(`Expansion.run_settled`).

Settled nodes stay as they are in both modes of evaluation, whatever the helpers and the limit are
(`Node.expandWith_row`, `Node.tokenized_row`).  The root adds a group around any other number of
nodes than one, which is `Node.Normal`, and so the result of an expansion is a fixed point of every
engine (`Engine.expandFrom_normal`).
-/

namespace TreeTemplate

namespace Node

/-- Members of an expanded row: elements and values, in which the value of an attribute is a settled
node or a row of two or more. -/
inductive Settled : Node → Prop where
  | literal (value : Value) : Settled (.literal value)
  | unescaped (value : Value) : Settled (.unescaped value)
  | element {tag : String} {attrs : Option (List (String × Node))} {children : List Node} :
    (∀ attr ∈ attrs.getD [], attr.2.IsCollapsed) →
    (∀ attr ∈ attrs.getD [], ∀ node ∈ attr.2.row, Settled node) →
    (∀ child ∈ children, Settled child) →
    Settled (.element tag attrs children)

/-- Expanded trees: a settled node, or a group of any other number of them than one. -/
inductive Normal : Node → Prop where
  | single {node : Node} : Settled node → Normal node
  | group {nodes : List Node} :
    nodes.length ≠ 1 → (∀ node ∈ nodes, Settled node) → Normal (.group nodes)

/-- A node that is neither a placeholder nor a join. -/
def IsExpanded (node : Node) : Prop :=
  node.isPlaceholder = false ∧ ∀ nodes, node ≠ .join nodes

/-- A settled node is no concatenation. -/
lemma Settled.ne_concat {node : Node} (settled : node.Settled) : ∀ nodes, node ≠ .concat nodes := by
  cases settled with
  | literal | unescaped | element => exact nofun

/-- A settled node is a row by itself. -/
lemma Settled.row_eq {node : Node} (settled : node.Settled) : node.row = [node] :=
  row_eq_singleton settled.ne_concat

lemma Settled.row {node : Node} (settled : node.Settled) : ∀ member ∈ node.row, member.Settled := by
  rw [settled.row_eq]
  exact List.forall_mem_singleton.2 settled

lemma Settled.space : Node.space.Settled := .literal _

/-- The attribute value made of settled nodes is a collapsed row of settled nodes. -/
lemma settled_toAttribute {fragment : Fragment} (settled : ∀ node ∈ fragment, node.Settled) :
    (Fragment.toAttribute fragment).IsCollapsed
      ∧ ∀ node ∈ (Fragment.toAttribute fragment).row, node.Settled := by
  have flat : ∀ node ∈ fragment, ∀ nodes, node ≠ .concat nodes :=
    fun node member => (settled node member).ne_concat
  refine ⟨Fragment.isCollapsed_toAttribute flat, ?_⟩
  exact Fragment.forall_mem_row_toAttribute flat (.literal _) settled

section

variable {value : Path → Value}
  {meaning : (helper : String) → (arg : Path) → (body : List Node) → Except Error Fragment}

/-- If all blocks have settled fragments, so has every node: the walk itself adds settled nodes
only, as the values of placeholders, the spaces of joins and elements. -/
lemma expandWith_settled
    (blocks : ∀ helper arg body fragment, meaning helper arg body = .ok fragment →
      ∀ node ∈ fragment, node.Settled)
    {node : Node} {fragment : Fragment} (h : node.expandWith value meaning = .ok fragment) :
    ∀ member ∈ fragment, member.Settled := by
  induction node generalizing fragment with
  | element tag attrs children ihAttrs ihChildren =>
    rw [expandWith_element, within_eq_ok_iff] at h
    obtain ⟨attrs', expandedAttrs, h⟩ := bind_eq_ok_iff.1 h
    obtain ⟨row, expandedRow, h⟩ := bind_eq_ok_iff.1 h
    cases h
    rw [expandWith_concat] at expandedRow
    obtain ⟨fragments, expanded, rfl⟩ := map_eq_ok_iff.1 expandedRow
    have settledAttrs : ∀ attr ∈ attrs'.getD [],
        attr.2.IsCollapsed ∧ ∀ node ∈ attr.2.row, node.Settled :=
      forall_of_expandAttrs expandedAttrs fun attr member fragment expands =>
        settled_toAttribute (ihAttrs attr member expands)
    have settledChildren : ∀ child ∈ fragments.flatten, child.Settled :=
      List.forall_mem_flatten.2 (forall_of_mapM expanded fun child member _ =>
        ihChildren child member)
    refine List.forall_mem_singleton.2 (.element ?_ ?_ settledChildren)
    · exact fun attr member => (settledAttrs attr member).1
    · exact fun attr member => (settledAttrs attr member).2
  | var path =>
    cases h
    exact List.forall_mem_singleton.2 (.literal _)
  | raw path =>
    cases h
    exact List.forall_mem_singleton.2 (.unescaped _)
  | block helper arg body => exact blocks helper arg body fragment h
  | join children ih =>
    rw [expandWith_join] at h
    obtain ⟨fragments, expanded, rfl⟩ := map_eq_ok_iff.1 h
    have settled := forall_of_mapM expanded fun child member _ => ih child member
    intro member inside
    -- the spaces of the join come from no member
    obtain rfl | ⟨fragment, among, inside⟩ := Fragment.mem_spaced inside
    · exact .space
    · exact settled fragment among member inside
  | concat children ih =>
    rw [expandWith_concat] at h
    obtain ⟨fragments, expanded, rfl⟩ := map_eq_ok_iff.1 h
    exact List.forall_mem_flatten.2 (forall_of_mapM expanded fun child member _ => ih child member)
  | group children ih =>
    rw [expandWith_group] at h
    obtain ⟨fragments, expanded, rfl⟩ := map_eq_ok_iff.1 h
    exact List.forall_mem_flatten.2 (forall_of_mapM expanded fun child member _ => ih child member)
  | literal value =>
    cases h
    exact List.forall_mem_singleton.2 (.literal _)
  | unescaped value =>
    cases h
    exact List.forall_mem_singleton.2 (.unescaped _)

/-- A node whose row is settled expands to that row. -/
lemma expandWith_row {node : Node} (settled : ∀ member ∈ node.row, member.Settled) :
    node.expandWith value meaning = .ok node.row := by
  induction node with
  | element tag attrs children ihAttrs ihChildren =>
    cases List.forall_mem_singleton.1 settled with
    | element collapsed settledAttrs settledChildren =>
      have sameAttrs : attrs.mapM (expandAttrsWith value meaning) = .ok attrs := by
        refine expandAttrs_eq_self fun attr member => ?_
        rw [ihAttrs attr member (settledAttrs attr member), Except.map_ok,
          (collapsed attr member).toAttribute_row]
      -- a settled child is alone in its row, so the rows of all children are the children
      have alone : ∀ child ∈ children, child.expandWith value meaning = .ok [child] := by
        intro child member
        have single := settledChildren child member
        rw [ihChildren child member single.row, single.row_eq]
      rw [expandWith_element, sameAttrs, ok_bind, expandWith_concat, mapM_eq_ok_map alone,
        Except.map_ok, ← List.flatMap_def, List.flatMap_singleton']
      rfl
  | concat children ih =>
    have alone : ∀ child ∈ children, child.expandWith value meaning = .ok [child] := by
      intro child member
      have single := settled child member
      rw [ih child member single.row, single.row_eq]
    rw [expandWith_concat, mapM_eq_ok_map alone, Except.map_ok, ← List.flatMap_def,
      List.flatMap_singleton']
    rfl
  | literal value => rfl
  | unescaped value => rfl
  | var path | raw path | block helper arg body | join children | group children =>
    cases List.forall_mem_singleton.1 settled

end

/-- The syntax of a row of settled nodes is the row itself. -/
lemma tokenized_row {node : Node} (settled : ∀ member ∈ node.row, member.Settled) :
    node.tokenized = node.row := by
  induction node with
  | element tag attrs children ihAttrs ihChildren =>
    cases List.forall_mem_singleton.1 settled with
    | element collapsed settledAttrs settledChildren =>
      have sameAttrs : attrs.map tokenizedAttrs = attrs := by
        refine tokenizedAttrs_eq_self fun attr member => ?_
        rw [ihAttrs attr member (settledAttrs attr member), (collapsed attr member).toAttribute_row]
      have alone : ∀ child ∈ children, child.tokenized = [child] := by
        intro child member
        have single := settledChildren child member
        rw [ihChildren child member single.row, single.row_eq]
      rw [tokenized_element, sameAttrs, List.flatMap_congr alone, List.flatMap_singleton']
      rfl
  | concat children ih =>
    have alone : ∀ child ∈ children, child.tokenized = [child] := by
      intro child member
      have single := settled child member
      rw [ih child member single.row, single.row_eq]
    rw [tokenized_concat, List.flatMap_congr alone, List.flatMap_singleton']
    rfl
  | literal value => rfl
  | unescaped value => rfl
  | var path | raw path | block helper arg body | join children | group children =>
    cases List.forall_mem_singleton.1 settled

/-- In a node whose row is settled nothing is left to expand. -/
lemma everywhere_isExpanded_of_row {node : Node} (settled : ∀ member ∈ node.row, member.Settled) :
    node.Everywhere IsExpanded := by
  induction node with
  | element tag attrs children ihAttrs ihChildren =>
    cases List.forall_mem_singleton.1 settled with
    | element collapsed settledAttrs settledChildren =>
      refine everywhere_iff.2 ⟨⟨rfl, nofun⟩, forall_mem_parts_element.2 ⟨?_, ?_⟩⟩
      · exact fun attr among => ihAttrs attr among (settledAttrs attr among)
      · exact fun child among => ihChildren child among (settledChildren child among).row
  | concat children ih =>
    refine everywhere_iff.2 ⟨⟨rfl, nofun⟩, fun child among => ?_⟩
    exact ih child among (settled child among).row
  | literal | unescaped => exact everywhere_iff.2 ⟨⟨rfl, nofun⟩, List.forall_mem_nil _⟩
  | var path | raw path | block helper arg body | join children | group children =>
    cases List.forall_mem_singleton.1 settled

/-- In a normal tree nothing is left to expand. -/
lemma Normal.everywhere_isExpanded {node : Node} (normal : node.Normal) :
    node.Everywhere IsExpanded := by
  cases normal with
  | single settled => exact everywhere_isExpanded_of_row settled.row
  | group _ settled =>
    refine everywhere_iff.2 ⟨⟨rfl, nofun⟩, fun child among => ?_⟩
    exact everywhere_isExpanded_of_row (settled child among).row

/-- The root made of settled nodes is in normal form. -/
lemma normal_toRoot {fragment : Fragment} (settled : ∀ node ∈ fragment, node.Settled) :
    (Fragment.toRoot fragment).Normal := by
  match fragment with
  | [] => exact .group (by decide) settled
  | [node] => exact .single (List.forall_mem_singleton.1 settled)
  | _ :: _ :: _ => exact .group (by simp) settled

/-- A normal root comes from a row that it expands to, whatever blocks mean. -/
lemma Normal.toRoot_expandWith {node : Node} (normal : node.Normal) (value : Path → Value)
    (meaning : (helper : String) → (arg : Path) → (body : List Node) → Except Error Fragment) :
    Fragment.toRoot <$> node.expandWith value meaning = .ok node := by
  cases normal with
  | single settled =>
    rw [expandWith_row settled.row, settled.row_eq]
    rfl
  | @group nodes many settled =>
    have row : (concat nodes).expandWith value meaning = .ok nodes := expandWith_row settled
    rw [expandWith_concat] at row
    rw [expandWith_group, row, Except.map_ok, Fragment.toRoot_of_ne_one many]

/-- A tree in normal form is its own syntax: it has no placeholder and no block to write out. -/
lemma Normal.toSyntax_eq {node : Node} (normal : node.Normal) : node.toSyntax = node := by
  cases normal with
  | single settled =>
    rw [toSyntax, tokenized_row settled.row, settled.row_eq]
    rfl
  | @group nodes many settled =>
    have row : (concat nodes).tokenized = nodes := tokenized_row settled
    rw [tokenized_concat] at row
    rw [toSyntax, tokenized_group, row, Fragment.toRoot_of_ne_one many]

end Node

/-- Runs give settled nodes, whatever the helpers return. -/
lemma Expansion.run_settled (expansion : Expansion) {left : Nat} {current : Value} {node : Node}
    {fragment : Fragment} (h : expansion.run left current node = .ok fragment) :
    ∀ member ∈ fragment, member.Settled := by
  induction left generalizing current node fragment with
  | zero =>
    rw [run_eq_expandWith] at h
    refine Node.expandWith_settled (fun helper arg body fragment eq => ?_) h
    rw [run_block_zero] at eq
    cases eq
  | succ left ih =>
    rw [run_eq_expandWith] at h
    refine Node.expandWith_settled (fun helper arg body fragment eq => ?_) h
    rw [run_block_succ, within_eq_ok_iff] at eq
    split at eq
    · cases eq
    · -- what the helper returned is expanded with one block less to be nested
      obtain ⟨result, -, expands⟩ := bind_eq_ok_iff.1 eq
      exact ih expands

/-- The result of an expansion is normal, so that no placeholder and no join is left in it, and
neither mode of evaluation changes it any more, whatever engine and context it is evaluated in. -/
theorem Engine.expandFrom_normal {engine : Engine} {source : Source} {context : Value} {node : Node}
    (h : engine.expandFrom source context = .ok node) :
    node.Normal ∧ node.Everywhere Node.IsExpanded ∧ ∀ (other : Engine) (data : Value),
      other.expandFrom (.tree node) data = .ok node ∧ other.toSyntax (.tree node) = .ok node := by
  obtain ⟨root, expands⟩ := exists_expand_of_expandFrom h
  obtain ⟨fragment, runs, rfl⟩ := map_eq_ok_iff.1 expands
  have normal := Node.normal_toRoot (Expansion.run_settled _ runs)
  refine ⟨normal, normal.everywhere_isExpanded, fun other data => ⟨?_, ?_⟩⟩
  · rw [expandFrom_tree, Expansion.expand, Expansion.run_eq_expandWith]
    exact normal.toRoot_expandWith _ _
  · rw [toSyntax_tree, normal.toSyntax_eq]

/-- A helper that returns its body as it is leaves nothing of it to expand. -/
theorem Engine.expandFrom_normal_of_returned_body :
    let engine := Engine.new.addHelper "again" Helper.nodes
    let template : Node :=
      .element "p"
        (some [("title", .block "again" .this [.join [.var (.current ["name"]), .var .this]])])
        [.block "with" (.current ["name"]) [.block "again" .this [.raw .this]]]
    let context : Value := .map [("name", .string "a")]
    let node : Node :=
      .element "p"
        (some [("title", .concat
          [.literal (.string "a"), .literal (.string " "), .literal context])])
        [.unescaped (.string "a")]
    engine.expandFrom (.tree template) context = .ok node ∧
      node.Normal ∧ node.Everywhere Node.IsExpanded ∧ ∀ (other : Engine) (data : Value),
        other.expandFrom (.tree node) data = .ok node ∧
          other.toSyntax (.tree node) = .ok node := by
  intro engine template context node
  have expands : engine.expandFrom (.tree template) context = .ok node := rfl
  exact ⟨expands, expandFrom_normal expands⟩

end TreeTemplate
