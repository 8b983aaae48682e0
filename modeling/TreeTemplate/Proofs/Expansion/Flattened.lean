import TreeTemplate.Proofs.Engine
import TreeTemplate.Proofs.Helper.Builtin
import TreeTemplate.Proofs.Placeholders.Legible

/-!
# Expansion works on the flattened tree

A tree and the row of its flattened nodes expand alike (`Node.expandWith_flattened`), as long as
blocks mean the same for a body and for its flattened nodes.  Helpers that look at the nodes of a
body can tell them apart, but builtin helpers only render the body, so for them this holds at every
depth (`Expansion.run_flattened`).

Together with `Node.flattened_eq_of_toSyntax_eq` this says that placeholder syntax loses nothing
that expansion depends on: `Engine.expandFrom_eq_of_toSyntax_eq`.
-/

namespace TreeTemplate

namespace Node

variable {value : Path → Value}
  {meaning : (helper : String) → (arg : Path) → (body : List Node) → Except Error Fragment}

/-- A row may be replaced node by node by rows that expand alike. -/
lemma expandWith_concat_flatMap {f : Node → Fragment} {nodes : List Node}
    (each : ∀ node ∈ nodes,
      (concat (f node)).expandWith value meaning = node.expandWith value meaning) :
    (concat (nodes.flatMap f)).expandWith value meaning =
      (concat nodes).expandWith value meaning := by
  induction nodes with
  | nil => rfl
  | cons node rest ih =>
    obtain ⟨head, tail⟩ := List.forall_mem_cons.1 each
    rw [List.flatMap_cons, expandWith_concat_append, expandWith_concat_cons, head, ih tail]

/-- Joined nodes may be replaced by rows that expand alike, with spaces between them. -/
lemma expandWith_concat_spaced {f : Node → Fragment} {nodes : List Node}
    (each : ∀ node ∈ nodes,
      (concat (f node)).expandWith value meaning = node.expandWith value meaning) :
    (concat (Fragment.spaced (nodes.map f))).expandWith value meaning =
      (join nodes).expandWith value meaning := by
  induction nodes with
  | nil => rfl
  | cons first rest ih =>
    obtain ⟨head, tail⟩ := List.forall_mem_cons.1 each
    cases rest with
    | nil =>
      rw [List.map_singleton, Fragment.spaced_singleton, head, expandWith_join_singleton]
    | cons second rest =>
      have rows := ih tail
      rw [List.map_cons] at rows
      rw [List.map_cons, List.map_cons, Fragment.spaced_cons_cons, expandWith_concat_append, head,
        expandWith_join_cons_cons, expandWith_concat_cons, rows]
      simp only [Node.space, expandWith, bind_assoc, pure_bind, List.singleton_append]

/-- The value of an attribute expands to that of the row it was made of. -/
lemma toAttribute_expandWith_toAttribute (fragment : Fragment) :
    Fragment.toAttribute <$> (Fragment.toAttribute fragment).expandWith value meaning =
      Fragment.toAttribute <$> (concat fragment).expandWith value meaning := by
  match fragment with
  | [] => rfl
  | [node] => rw [expandWith_concat_singleton]; rfl
  | first :: second :: rest => rfl

/-- Flattening the attribute values does not change what they expand to. -/
lemma expandAttrsWith_flattenedAttrs {attrs : Option (List (String × Node))}
    (each : ∀ attr ∈ attrs.getD [],
      (concat attr.2.flattened).expandWith value meaning = attr.2.expandWith value meaning) :
    (attrs.map flattenedAttrs).mapM (expandAttrsWith value meaning) =
      attrs.mapM (expandAttrsWith value meaning) := by
  cases attrs with
  | none => rfl
  | some attrs =>
    refine congrArg (some <$> ·) ?_
    rw [flattenedAttrs_eq_map, expandAttrsWith_eq_mapM, expandAttrsWith_eq_mapM, List.mapM_map]
    refine mapM_congr fun attr among => ?_
    have same : Fragment.toAttribute <$>
        (Fragment.toAttribute attr.2.flattened).expandWith value meaning =
          Fragment.toAttribute <$> attr.2.expandWith value meaning := by
      rw [toAttribute_expandWith_toAttribute, each attr among]
    have named := congrArg (Prod.mk attr.1 <$> ·) same
    simpa only [Functor.map_map, Function.comp_apply] using named

/-- A tree expands like the row of its flattened nodes, if blocks mean the same for flattened
bodies. -/
lemma expandWith_flattened
    (blocks : ∀ helper arg body,
      meaning helper arg (body.flatMap flattened) = meaning helper arg body) (node : Node) :
    (concat node.flattened).expandWith value meaning = node.expandWith value meaning := by
  induction node with
  | element tag attrs children ihAttrs ihChildren =>
    rw [flattened_element, expandWith_concat_singleton, expandWith_element, expandWith_element,
      expandAttrsWith_flattenedAttrs ihAttrs, expandWith_concat_flatMap ihChildren]
  | block helper arg body ih =>
    rw [flattened_block, expandWith_concat_singleton]
    exact blocks helper arg body
  | join children ih =>
    rw [flattened_join]
    exact expandWith_concat_spaced ih
  | concat children ih =>
    rw [flattened_concat]
    exact expandWith_concat_flatMap ih
  | group children ih =>
    rw [flattened_group, expandWith_concat_flatMap ih, expandWith_concat, expandWith_group]
  | var path | raw path | literal value | unescaped value => exact expandWith_concat_singleton _ _ _

end Node

variable {expansion : Expansion} {engine : Engine}

/-- With builtin helpers a tree expands like the row of its flattened nodes. -/
lemma Expansion.run_flattened (builtin : expansion.OnlyBuiltins) (left : Nat) (current : Value)
    (node : Node) :
    expansion.run left current (.concat node.flattened) = expansion.run left current node := by
  induction left generalizing current node with
  | zero =>
    rw [run_eq_expandWith]
    exact Node.expandWith_flattened (fun helper arg body => rfl) node
  | succ left ih =>
    rw [run_eq_expandWith]
    refine Node.expandWith_flattened (fun helper arg body => ?_) node
    cases found : expansion.helper? helper with
    | none => rw [run_block_unknown found, run_block_unknown found]
    | some call =>
      obtain ⟨builtin, rfl⟩ := builtin helper call found
      rw [run_block_builtin found, run_block_builtin found]
      -- the body is rendered with one block less to be nested
      have bodies : ∀ context, expansion.run left context (.concat (body.flatMap Node.flattened)) =
          expansion.run left context (.concat body) := by
        intro context
        rw [← Node.flattened_concat]
        exact ih context (.concat body)
      simp only [bodies]

/-- Templates that are flattened to the same row expand alike. -/
lemma Engine.expandFrom_eq_of_flattened_eq (builtin : engine.OnlyBuiltins) {node other : Node}
    (eq : node.flattened = other.flattened) (context : Value) :
    engine.expandFrom (.tree node) context = engine.expandFrom (.tree other) context := by
  have builtinRun : (engine.expansion context).OnlyBuiltins := builtin
  rw [expandFrom_tree, expandFrom_tree, Expansion.expand, Expansion.expand,
    ← Expansion.run_flattened builtinRun, eq, Expansion.run_flattened builtinRun]

/-- Templates without unescaped values and with the same placeholder syntax expand alike in every
engine that has builtin helpers only: to the same tree, or with the same error. -/
theorem Engine.expandFrom_eq_of_toSyntax_eq (builtin : engine.OnlyBuiltins) {node other : Node}
    (wf : node.WellFormed) (wfOther : other.WellFormed)
    (escaped : ∀ value, ¬ (Node.unescaped value).OccursIn node)
    (escapedOther : ∀ value, ¬ (Node.unescaped value).OccursIn other) {renderer : Engine}
    (eq : renderer.toSyntax (.tree node) = renderer.toSyntax (.tree other)) (context : Value) :
    engine.expandFrom (.tree node) context = engine.expandFrom (.tree other) context := by
  rw [toSyntax_tree, toSyntax_tree] at eq
  have same : node.flattened = other.flattened :=
    Node.flattened_eq_of_toSyntax_eq wf wfOther escaped escapedOther (Except.ok.inj eq)
  exact expandFrom_eq_of_flattened_eq builtin same context

/-- An attribute of nothing joined and one that is the empty value have the same syntax. -/
theorem Engine.expandFrom_eq_of_empty_attribute :
    let node : Node :=
      .block "each" (.parent ["items"]) [.element "p" (some [("class", .join [])]) [.var .this]]
    let other : Node :=
      .block "each" (.parent ["items"])
        [.element "p" (some [("class", .literal .none)]) [.var .this]]
    Engine.new.OnlyBuiltins ∧ node.WellFormed ∧ other.WellFormed
      ∧ (∀ value, ¬ (Node.unescaped value).OccursIn node)
      ∧ (∀ value, ¬ (Node.unescaped value).OccursIn other)
      ∧ Engine.empty.toSyntax (.tree node) = Engine.empty.toSyntax (.tree other)
      ∧ ∀ context, Engine.new.expandFrom (.tree node) context =
        Engine.new.expandFrom (.tree other) context := by
  intro node other
  have wf : node.WellFormed := by
    simp only [node, Node.WellFormed, Node.AllWellFormed, Node.AttrsWellFormed, Entries.Sorted]
    decide
  have wfOther : other.WellFormed := by
    simp only [other, Node.WellFormed, Node.AllWellFormed, Node.AttrsWellFormed, Value.WellFormed,
      Entries.Sorted]
    decide
  have escaped : ∀ value, ¬ (Node.unescaped value).OccursIn node := by
    grind [cases Node.OccursIn, Node.parts]
  have escapedOther : ∀ value, ¬ (Node.unescaped value).OccursIn other := by
    grind [cases Node.OccursIn, Node.parts]
  have same : Engine.empty.toSyntax (.tree node) = Engine.empty.toSyntax (.tree other) := rfl
  refine ⟨Engine.new_onlyBuiltins, wf, wfOther, escaped, escapedOther, same, fun context => ?_⟩
  exact expandFrom_eq_of_toSyntax_eq Engine.new_onlyBuiltins wf wfOther escaped escapedOther same
    context

end TreeTemplate
