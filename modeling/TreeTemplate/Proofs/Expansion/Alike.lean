import TreeTemplate.Proofs.Engine
import TreeTemplate.Proofs.Value.Alike

/-!
# Expansion against alike contexts

Two contexts that differ in the texts of their strings only lead an expansion with builtin helpers
along the same way: it gives trees of the same markup with alike values, or fails with the same
error (`Expansion.Alike.run`).  The values of escaped references may differ.  Unescaped values are
those of the template itself, and so they are the same, unless the template has raw references.
-/

namespace TreeTemplate

namespace Node

/-- Expanded trees of the same markup with the same unescaped values and alike literals. -/
inductive Alike : Node → Node → Prop where
  | literal {value other : Value} : value.Alike other → Alike (.literal value) (.literal other)
  | unescaped (value : Value) : Alike (.unescaped value) (.unescaped value)
  | element {tag : String} {attrs attrs' : Option (List (String × Node))}
    {children children' : List Node} :
    List.Forall₂ (Entries.Related Alike) (attrs.getD []) (attrs'.getD []) →
    List.Forall₂ Alike children children' →
    Alike (.element tag attrs children) (.element tag attrs' children')
  | concat {nodes nodes' : List Node} :
    List.Forall₂ Alike nodes nodes' → Alike (.concat nodes) (.concat nodes')
  | group {nodes nodes' : List Node} :
    List.Forall₂ Alike nodes nodes' → Alike (.group nodes) (.group nodes')

/-- Roots of fragments that are alike node by node are alike. -/
lemma toRoot_alike {fragment fragment' : Fragment} (h : List.Forall₂ Alike fragment fragment') :
    (Fragment.toRoot fragment).Alike (Fragment.toRoot fragment') := by
  cases h with
  | nil => exact .group .nil
  | cons head tail =>
    cases tail with
    | nil => exact head
    | cons next tail => exact .group (.cons head (.cons next tail))

/-- Attribute values made of fragments that are alike node by node are alike. -/
lemma toAttribute_alike {fragment fragment' : Fragment}
    (h : List.Forall₂ Alike fragment fragment') :
    (Fragment.toAttribute fragment).Alike (Fragment.toAttribute fragment') := by
  cases h with
  | nil => exact .literal .none
  | cons head tail =>
    cases tail with
    | nil => exact head
    | cons next tail => exact .concat (.cons head (.cons next tail))

variable {value value' : Path → Value}
  {meaning meaning' : (helper : String) → (arg : Path) → (body : List Node) → Except Error Fragment}

/-- Attributes end alike if their values do, one by one. -/
lemma expandAttrsWith_alike {attrs : Option (List (String × Node))}
    (each : ∀ attr ∈ attrs.getD [], Agree (List.Forall₂ Alike)
      (attr.2.expandWith value meaning) (attr.2.expandWith value' meaning')) :
    Agree (fun expanded expanded' =>
        List.Forall₂ (Entries.Related Alike) (expanded.getD []) (expanded'.getD []))
      (attrs.mapM (expandAttrsWith value meaning))
      (attrs.mapM (expandAttrsWith value' meaning')) := by
  cases attrs with
  | none => exact .ok .nil
  | some attrs =>
    rw [Option.mapM_some, Option.mapM_some, expandAttrsWith_eq_mapM, expandAttrsWith_eq_mapM]
    have collapsed : ∀ attr ∈ attrs, Agree (Entries.Related Alike)
        ((fun fragment => (attr.1, Fragment.toAttribute fragment)) <$>
          attr.2.expandWith value meaning)
        ((fun fragment => (attr.1, Fragment.toAttribute fragment)) <$>
          attr.2.expandWith value' meaning') :=
      fun attr among => (each attr among).map fun _ _ rows => .mk (toAttribute_alike rows)
    have walk := Agree.mapM (List.forall₂_same.2 collapsed)
    exact walk.map fun _ _ related => related

/-- A row ends alike if its members do, one by one. -/
lemma expandWith_concat_alike {nodes : List Node}
    (each : ∀ node ∈ nodes, Agree (List.Forall₂ Alike)
      (node.expandWith value meaning) (node.expandWith value' meaning')) :
    Agree (List.Forall₂ Alike) ((concat nodes).expandWith value meaning)
      ((concat nodes).expandWith value' meaning') := by
  rw [expandWith_concat, expandWith_concat]
  have rows := Agree.mapM (List.forall₂_same.2 each)
  exact rows.map fun _ _ alike => List.rel_flatten alike

/-- Trees without raw references expand alike if paths lead to alike values and blocks expand
alike. -/
lemma expandWith_alike (values : ∀ path, (value path).Alike (value' path))
    (blocks : ∀ helper arg body, (∀ node ∈ body, node.Without raw) →
      Agree (List.Forall₂ Alike) (meaning helper arg body) (meaning' helper arg body))
    {node : Node} (escaped : node.Without raw) :
    Agree (List.Forall₂ Alike) (node.expandWith value meaning)
      (node.expandWith value' meaning') := by
  induction node with
  | element tag attrs children ihAttrs ihChildren =>
    obtain ⟨inAttrs, inChildren⟩ := forall_mem_parts_element.1 escaped.part
    rw [expandWith_element, expandWith_element]
    refine Agree.within _ ?_
    have attrsAgree := expandAttrsWith_alike fun attr among =>
      ihAttrs attr among (inAttrs attr among)
    have rowsAgree := expandWith_concat_alike fun child among =>
      ihChildren child among (inChildren child among)
    -- the attributes come first, so an error in them hides those of the children in both runs
    refine attrsAgree.bind fun expanded expanded' sameAttrs => ?_
    refine rowsAgree.bind fun row row' sameRow => ?_
    exact .ok (.cons (.element sameAttrs sameRow) .nil)
  | var path => exact .ok (.cons (.literal (values path)) .nil)
  | raw path => exact absurd .self (escaped path)
  | block helper arg body ih => exact blocks helper arg body escaped.part
  | join children ih =>
    rw [expandWith_join, expandWith_join]
    have rows := Agree.mapM (List.forall₂_same.2 fun child among =>
      ih child among (escaped.part child among))
    exact rows.map fun _ _ => Fragment.forall₂_spaced (.literal (.refl _))
  | concat children ih =>
    exact expandWith_concat_alike fun child among => ih child among (escaped.part child among)
  | group children ih =>
    rw [expandWith_group, expandWith_group, ← expandWith_concat, ← expandWith_concat]
    exact expandWith_concat_alike fun child among => ih child among (escaped.part child among)
  | literal value => exact .ok (.cons (.literal (.refl value)) .nil)
  | unescaped value => exact .ok (.cons (.unescaped value) .nil)

/-- A row holds no raw placeholder if none of its members does. -/
lemma without_raw_concat {nodes : List Node} (h : ∀ node ∈ nodes, node.Without raw) :
    (concat nodes).Without raw := by
  intro path occurs
  cases occurs with
  | part member occurs => exact h _ member path occurs

end Node

namespace Expansion

/-- Expansions with the same helpers and the same limit, and alike contexts at the top level. -/
structure Alike (expansion other : Expansion) : Prop where
  helpers : expansion.helper? = other.helper?
  limit : expansion.limit = other.limit
  top : expansion.top.Alike other.top

variable {expansion other : Expansion}

/-- A path has alike values in alike expansions, the empty value in both if it leads nowhere. -/
lemma Alike.value (h : expansion.Alike other) {current current' : Value}
    (currents : current.Alike current') (path : Path) :
    (expansion.value current path).Alike (other.value current' path) :=
  rel_getD (path.resolve_alike currents h.top) .none

/-- With builtin helpers, trees without raw references expand alike in alike contexts. -/
theorem Alike.run (h : expansion.Alike other) (builtin : expansion.OnlyBuiltins) (left : Nat)
    {current current' : Value} (currents : current.Alike current') {node : Node}
    (escaped : node.Without .raw) :
    Agree (List.Forall₂ Node.Alike) (expansion.run left current node)
      (other.run left current' node) := by
  induction left generalizing current current' node with
  | zero =>
    rw [expansion.run_eq_expandWith, other.run_eq_expandWith]
    refine Node.expandWith_alike (h.value currents) (fun helper arg body _ => ?_) escaped
    rw [run_block_zero, run_block_zero, h.limit]
    exact .error _
  | succ left ih =>
    rw [expansion.run_eq_expandWith, other.run_eq_expandWith]
    refine Node.expandWith_alike (h.value currents) (fun helper arg body inBody => ?_) escaped
    cases found : expansion.helper? helper with
    | none =>
      rw [run_block_unknown found, run_block_unknown (h.helpers ▸ found)]
      exact .error _
    | some call =>
      obtain ⟨builtin, rfl⟩ := builtin helper call found
      rw [run_block_builtin found, run_block_builtin (h.helpers ▸ found)]
      -- both runs render the body equally often, each time in alike contexts
      have contexts := builtin.contexts_alike (h.value currents arg) currents
      have rows := Agree.mapM (contexts.imp fun _ _ alike =>
        ih alike (Node.without_raw_concat inBody))
      exact (rows.map fun _ _ alike => List.rel_flatten alike).within _

end Expansion

end TreeTemplate
