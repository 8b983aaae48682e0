import TreeTemplate.Proofs.Engine
import TreeTemplate.Proofs.Expansion.Step
import TreeTemplate.Proofs.Node.Filled
import TreeTemplate.Proofs.Placeholders.Step

/-!
# Both modes of evaluation give one outline

Expansion and placeholder syntax walk a template separately, and each flattens sequences, spaces
joins, collapses the values of attributes and wraps the root.  The outline of a template is what
both do to it when its references are left as they are.  For a template without blocks an expansion
is the outline with values in the place of references, and placeholder syntax is the outline with
tokens there: `Engine.expandFrom_toSyntax_outline`.  So the two trees differ in nothing else, and a
template without placeholders gives the same tree in both modes.
-/

namespace TreeTemplate

namespace Node

/-- The tree that both modes of evaluation make of a template, its references left as they are. -/
def outline (node : Node) : Node :=
  Fragment.toRoot node.flattened

/-- Filling the outline is filling the template, if what stands for a reference is one member of a
row. -/
lemma outline_filled {escaped unescaped : Path → Node}
    (one : ∀ path, (escaped path).flattened = [escaped path])
    (oneRaw : ∀ path, (unescaped path).flattened = [unescaped path]) (node : Node) :
    node.outline.filled escaped unescaped = (node.filled escaped unescaped).outline := by
  rw [outline, outline, filled_toRoot, flattened_filled one oneRaw]

section Expansion

variable {value : Path → Value}
  {meaning : (helper : String) → (arg : Path) → (body : List Node) → Except Error Fragment}
  {f : Node → Node}

/-- Nodes that expand to the flattened images of theirs do so as a list. -/
lemma mapM_expandWith_flattened {nodes : List Node}
    (each : ∀ node ∈ nodes, node.expandWith value meaning = .ok (f node).flattened) :
    nodes.mapM (expandWith value meaning) = .ok ((nodes.map f).map flattened) := by
  rw [List.map_map]
  exact mapM_eq_ok_map each

/-- Attributes expand to the flattened values with the placeholders filled in, if each does. -/
lemma mapM_expandAttrsWith_flattened {escaped unescaped : Path → Node}
    {attrs : Option (List (String × Node))}
    (each : ∀ attr ∈ attrs.getD [],
      attr.2.expandWith value meaning = .ok (attr.2.filled escaped unescaped).flattened) :
    attrs.mapM (expandAttrsWith value meaning) =
      .ok ((attrs.map (filledAttrs escaped unescaped)).map flattenedAttrs) := by
  cases attrs with
  | none => rfl
  | some attrs =>
    have walk : expandAttrsWith value meaning attrs = .ok (attrs.map fun attr =>
        (attr.1, Fragment.toAttribute (attr.2.filled escaped unescaped).flattened)) := by
      rw [expandAttrsWith_eq_mapM]
      refine mapM_eq_ok_map fun attr among => ?_
      rw [each attr among]
      rfl
    rw [Option.mapM_some, walk, Option.map_some, Option.map_some, filledAttrs_eq_map,
      flattenedAttrs_eq_map, List.map_map]
    rfl

/-- A tree without blocks expands to its flattened members with values in the place of references,
whatever blocks mean. -/
lemma expandWith_blockFree {node : Node} (free : node.BlockFree) :
    node.expandWith value meaning =
      .ok (node.filled (fun path => .literal (value path))
        (fun path => .unescaped (value path))).flattened := by
  induction node with
  | element tag attrs children ihAttrs ihChildren =>
    obtain ⟨inAttrs, inChildren⟩ := forall_mem_parts_element.1 free.part
    have attrsExpand := mapM_expandAttrsWith_flattened fun attr among =>
      ihAttrs attr among (inAttrs attr among)
    have childrenExpand := mapM_expandWith_flattened fun child among =>
      ihChildren child among (inChildren child among)
    rw [expandWith_element, attrsExpand, ok_bind, expandWith_concat, childrenExpand, filled_element,
      flattened_element, List.flatMap_def]
    rfl
  | var path => rfl
  | raw path => rfl
  | block helper arg body => exact absurd .self (free helper arg body)
  | join nodes ih =>
    have nodesExpand := mapM_expandWith_flattened fun node among => ih node among (free.part node among)
    rw [expandWith_join, nodesExpand, filled_join, flattened_join]
    rfl
  | concat nodes ih =>
    have nodesExpand := mapM_expandWith_flattened fun node among => ih node among (free.part node among)
    rw [expandWith_concat, nodesExpand, filled_concat, flattened_concat, List.flatMap_def]
    rfl
  | group nodes ih =>
    have nodesExpand := mapM_expandWith_flattened fun node among => ih node among (free.part node among)
    rw [expandWith_group, nodesExpand, filled_group, flattened_group, List.flatMap_def]
    rfl
  | literal value => rfl
  | unescaped value => rfl

end Expansion

/-- The syntax of attributes is that of their values, flattened with the placeholders filled in. -/
lemma map_tokenizedAttrs_flattened {escaped unescaped : Path → Node}
    {attrs : Option (List (String × Node))}
    (each : ∀ attr ∈ attrs.getD [],
      attr.2.tokenized = (attr.2.filled escaped unescaped).flattened) :
    attrs.map tokenizedAttrs = (attrs.map (filledAttrs escaped unescaped)).map flattenedAttrs := by
  cases attrs with
  | none => rfl
  | some attrs =>
    refine congrArg some ?_
    rw [tokenizedAttrs_eq_map, filledAttrs_eq_map, flattenedAttrs_eq_map, List.map_map]
    refine List.map_congr_left fun attr among => congrArg (Prod.mk attr.1) ?_
    rw [each attr among]

/-- A tree without blocks is rendered to its flattened members with tokens in the place of
references. -/
lemma tokenized_blockFree {node : Node} (free : node.BlockFree) :
    node.tokenized =
      (node.filled (fun path => (Token.var path).toNode)
        (fun path => (Token.raw path).toNode)).flattened := by
  induction node with
  | element tag attrs children ihAttrs ihChildren =>
    obtain ⟨inAttrs, inChildren⟩ := forall_mem_parts_element.1 free.part
    have sameAttrs := map_tokenizedAttrs_flattened fun attr among =>
      ihAttrs attr among (inAttrs attr among)
    rw [tokenized_element, sameAttrs, filled_element, flattened_element, List.flatMap_map]
    refine congrArg (fun row => [element tag _ row]) (List.flatMap_congr fun child among => ?_)
    exact ihChildren child among (inChildren child among)
  | var path => rfl
  | raw path => rfl
  | block helper arg body => exact absurd .self (free helper arg body)
  | join nodes ih =>
    rw [tokenized_join, filled_join, flattened_join, List.map_map]
    refine congrArg Fragment.spaced (List.map_congr_left fun node among => ?_)
    exact ih node among (free.part node among)
  | concat nodes ih =>
    rw [tokenized_concat, filled_concat, flattened_concat, List.flatMap_map]
    exact List.flatMap_congr fun node among => ih node among (free.part node among)
  | group nodes ih =>
    rw [tokenized_group, filled_group, flattened_group, List.flatMap_map]
    exact List.flatMap_congr fun node among => ih node among (free.part node among)
  | literal value => rfl
  | unescaped value => rfl

end Node

/-- A template without blocks always expands.  The result is its outline with the values of
references in their places, and its placeholder syntax is the outline with their tokens there; so
the two are the same if the template has no references. -/
theorem Engine.expandFrom_toSyntax_outline (engine : Engine) {template : Node}
    (free : template.BlockFree) (context : Value) :
    engine.expandFrom (.tree template) context =
        .ok (template.outline.filled
          (fun path => .literal ((path.resolve context context).getD .none))
          (fun path => .unescaped ((path.resolve context context).getD .none)))
      ∧ engine.toSyntax (.tree template) =
        .ok (template.outline.filled
          (fun path => .unescaped (.string (Token.var path).text))
          (fun path => .unescaped (.string (Token.raw path).text)))
      ∧ ((∀ inner : Node, inner.OccursIn template → inner.isPlaceholder = false) →
        engine.expandFrom (.tree template) context = engine.toSyntax (.tree template)) := by
  have expansion : engine.expandFrom (.tree template) context =
      .ok (template.outline.filled
        (fun path => .literal ((path.resolve context context).getD .none))
        (fun path => .unescaped ((path.resolve context context).getD .none))) := by
    rw [expandFrom_tree, Expansion.expand, Expansion.run_eq_expandWith,
      Node.expandWith_blockFree free, Node.outline_filled (fun _ => rfl) (fun _ => rfl)]
    rfl
  have placeholders : engine.toSyntax (.tree template) =
      .ok (template.outline.filled
        (fun path => .unescaped (.string (Token.var path).text))
        (fun path => .unescaped (.string (Token.raw path).text))) := by
    rw [toSyntax_tree, Node.toSyntax, Node.tokenized_blockFree free,
      Node.outline_filled (fun _ => rfl) (fun _ => rfl)]
    rfl
  refine ⟨expansion, placeholders, fun resolved => ?_⟩
  have noVar : template.Without .var := fun path occurs => nomatch resolved _ occurs
  have noRaw : template.Without .raw := fun path occurs => nomatch resolved _ occurs
  rw [expansion, placeholders, Node.outline_filled (fun _ => rfl) (fun _ => rfl),
    Node.outline_filled (fun _ => rfl) (fun _ => rfl), Node.filled_eq_self noVar noRaw,
    Node.filled_eq_self noVar noRaw]

/-- An attribute collapses to the one reference in it, and joined children keep the spaces around one
that is empty, in both modes. -/
theorem Engine.expandFrom_toSyntax_outline_of_joined_link :
    let link : Node :=
      .element "a" (some [("href", .concat [.join [], .var (.current ["url"])])])
        [.join [.var (.current ["name"]), .group [], .raw (.parent ["rest", "0"])]]
    let heading : Node := .group [.element "h1" none [.join [.literal (.string "a"), .concat []]]]
    let context : Value := .map [("name", .string "home"), ("url", .string "/")]
    link.BlockFree ∧ heading.BlockFree
      ∧ (∀ inner : Node, inner.OccursIn heading → inner.isPlaceholder = false)
      ∧ Engine.empty.expandFrom (.tree link) context =
        .ok (.element "a" (some [("href", .literal (.string "/"))])
          [.literal (.string "home"), .space, .space, .unescaped .none])
      ∧ Engine.empty.toSyntax (.tree link) =
        .ok (.element "a" (some [("href", .unescaped (.string "\x7b\x7burl\x7d\x7d"))])
          [.unescaped (.string "\x7b\x7bname\x7d\x7d"), .space, .space,
            .unescaped (.string "\x7b\x7b\x7b../rest.0\x7d\x7d\x7d")])
      ∧ Engine.empty.expandFrom (.tree heading) context =
        Engine.empty.toSyntax (.tree heading) := by
  intro link heading context
  have free : link.BlockFree := by simp [Node.BlockFree, link]
  have freeHeading : heading.BlockFree := by simp [Node.BlockFree, heading]
  have resolved : ∀ inner : Node, inner.OccursIn heading → inner.isPlaceholder = false := by
    simp [heading, Node.isPlaceholder]
  obtain ⟨expansion, placeholders, -⟩ := expandFrom_toSyntax_outline .empty free context
  obtain ⟨-, -, same⟩ := expandFrom_toSyntax_outline .empty freeHeading context
  exact ⟨free, freeHeading, resolved, expansion, placeholders, same resolved⟩

end TreeTemplate
