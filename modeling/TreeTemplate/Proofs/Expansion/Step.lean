import TreeTemplate.Expansion
import TreeTemplate.Proofs.Fragment
import TreeTemplate.Proofs.Node.Parts
import TreeTemplate.Proofs.Outcome

/-!
# Expansion, node by node

The equations of `Node.expandWith`, with its walks over rows and attributes as walks over lists, and
those of `Expansion.run`.  A run does with every node but a block what `Node.expandWith` does
(`Expansion.run_eq_expandWith`), so statements on runs are shown for an unknown meaning of blocks
first, by induction on the tree, and then for runs by induction on the number of blocks that may
still be nested.  One such statement is that a tree is expanded in the same way under two meanings
of blocks if they agree in the tree (`Node.expandWith_congr`), or else up to where the first stops
(`Node.expandWith_sameUnless`), and this also if the values differ of paths that are not in the tree.
-/

namespace TreeTemplate

namespace Node

section

variable (value : Path → Value)
  (meaning : (helper : String) → (arg : Path) → (body : List Node) → Except Error Fragment)

/-- A walk over nodes is the expansion of each of them, in order. -/
lemma expandEachWith_eq_mapM (nodes : List Node) :
    expandEachWith value meaning nodes = nodes.mapM (expandWith value meaning) := by
  induction nodes with
  | nil => rfl
  | cons node rest ih => rw [expandEachWith, ih, List.mapM_cons]

/-- Attributes expand to attributes of the same names, in order. -/
lemma expandAttrsWith_eq_mapM (attrs : List (String × Node)) :
    expandAttrsWith value meaning attrs = attrs.mapM fun attr =>
      (fun fragment => (attr.1, Fragment.toAttribute fragment)) <$>
        attr.2.expandWith value meaning := by
  induction attrs with
  | nil => rfl
  | cons attr rest ih =>
    rw [expandAttrsWith, ih, List.mapM_cons, bind_map_left]

variable {value meaning} in
/-- What holds of the expansion of each attribute holds of the attributes of the expanded element.
-/
lemma forall_of_expandAttrs {P : String × Node → Prop} {attrs : Option (List (String × Node))}
    {expanded : Option (List (String × Node))}
    (h : attrs.mapM (expandAttrsWith value meaning) = .ok expanded)
    (each : ∀ attr ∈ attrs.getD [], ∀ fragment, attr.2.expandWith value meaning = .ok fragment →
      P (attr.1, Fragment.toAttribute fragment)) :
    ∀ attr ∈ expanded.getD [], P attr := by
  cases attrs with
  | none =>
    cases h
    exact List.forall_mem_nil _
  | some attrs =>
    obtain ⟨results, walk, rfl⟩ := map_eq_ok_iff.1 h
    rw [expandAttrsWith_eq_mapM] at walk
    refine forall_of_mapM walk fun attr member result eq => ?_
    obtain ⟨fragment, expands, rfl⟩ := map_eq_ok_iff.1 eq
    exact each attr member fragment expands

variable {value meaning} in
/-- Attributes whose values are those of their expansions stay as they are. -/
lemma expandAttrs_eq_self {attrs : Option (List (String × Node))}
    (each : ∀ attr ∈ attrs.getD [],
      Fragment.toAttribute <$> attr.2.expandWith value meaning = .ok attr.2) :
    attrs.mapM (expandAttrsWith value meaning) = .ok attrs := by
  cases attrs with
  | none => rfl
  | some attrs =>
    have same : expandAttrsWith value meaning attrs = .ok (attrs.map id) := by
      rw [expandAttrsWith_eq_mapM]
      refine mapM_eq_ok_map fun attr member => ?_
      obtain ⟨fragment, expands, eq⟩ := map_eq_ok_iff.1 (each attr member)
      rw [expands, Except.map_ok, eq]
      rfl
    rw [Option.mapM_some, same, List.map_id]
    rfl

/-- A concatenation expands to what its members expand to, one after another. -/
lemma expandWith_concat (nodes : List Node) :
    expandWith value meaning (.concat nodes) =
      List.flatten <$> nodes.mapM (expandWith value meaning) := by
  rw [expandWith, expandEachWith_eq_mapM]

/-- An element is expanded by its attributes first and then by its children. -/
lemma expandWith_element (tag : String) (attrs : Option (List (String × Node)))
    (children : List Node) :
    expandWith value meaning (.element tag attrs children) =
      within (.element tag) (do
        let attrs ← attrs.mapM (expandAttrsWith value meaning)
        let row ← expandWith value meaning (.concat children)
        pure [.element tag attrs row]) := by
  rw [expandWith_concat, ← expandEachWith_eq_mapM]
  simp only [bind_map_left]
  cases attrs with
  | none => rfl
  | some attrs => rfl

/-- Concatenations put together expand one after the other. -/
lemma expandWith_concat_append (nodes more : List Node) :
    expandWith value meaning (.concat (nodes ++ more)) = (do
      let fragment ← expandWith value meaning (.concat nodes)
      let rest ← expandWith value meaning (.concat more)
      pure (fragment ++ rest)) := by
  simp only [expandWith_concat, List.mapM_append, map_bind, bind_map_left, map_pure,
    List.flatten_append]

/-- A concatenation expands its first member first. -/
lemma expandWith_concat_cons (node : Node) (rest : List Node) :
    expandWith value meaning (.concat (node :: rest)) = (do
      let fragment ← expandWith value meaning node
      let more ← expandWith value meaning (.concat rest)
      pure (fragment ++ more)) := by
  simp only [expandWith_concat, List.mapM_cons, map_bind, bind_map_left, map_pure,
    List.flatten_cons]

lemma expandWith_concat_singleton (node : Node) :
    expandWith value meaning (.concat [node]) = expandWith value meaning node := by
  rw [expandWith_concat, flatten_mapM_singleton]

/-- A group expands to what its members expand to, one after another. -/
lemma expandWith_group (nodes : List Node) :
    expandWith value meaning (.group nodes) =
      List.flatten <$> nodes.mapM (expandWith value meaning) := by
  rw [expandWith, expandEachWith_eq_mapM]

/-- A join expands to what its members expand to, with a space between each two. -/
lemma expandWith_join (nodes : List Node) :
    expandWith value meaning (.join nodes) =
      Fragment.spaced <$> nodes.mapM (expandWith value meaning) := by
  rw [expandWith, expandEachWith_eq_mapM]

lemma expandWith_join_singleton (node : Node) :
    expandWith value meaning (.join [node]) = expandWith value meaning node := by
  rw [expandWith_join, List.mapM_cons, List.mapM_nil]
  cases expandWith value meaning node with
  | error e => rfl
  | ok fragment => exact congrArg Except.ok (Fragment.spaced_singleton fragment)

/-- A node joined in front of others is expanded first and followed by a space. -/
lemma expandWith_join_cons_cons (first second : Node) (rest : List Node) :
    expandWith value meaning (.join (first :: second :: rest)) = (do
      let fragment ← expandWith value meaning first
      let more ← expandWith value meaning (.join (second :: rest))
      pure (fragment ++ Node.space :: more)) := by
  simp only [expandWith_join, List.mapM_cons, map_bind, map_pure, bind_assoc, pure_bind,
    Fragment.spaced_cons_cons]

/-- Walks over a tree end in the same way, unless the first is stopped, if paths in the tree have the
same values and blocks in it end in the same way. -/
lemma expandWith_sameUnless_of_values {stops : Error → Prop}
    (around : ∀ label error, stops error → stops (error.within label)) {node : Node}
    {value value' : Path → Value}
    {meaning other : (helper : String) → (arg : Path) → (body : List Node) → Except Error Fragment}
    (values : node.Everywhere fun inner => ∀ path ∈ inner.path?, value path = value' path)
    (blocks : ∀ helper arg body, (block helper arg body).OccursIn node →
      SameUnless stops (meaning helper arg body) (other helper arg body)) :
    SameUnless stops (node.expandWith value meaning) (node.expandWith value' other) := by
  induction node with
  | element tag attrs children ihAttrs ihChildren =>
    have inParts : ∀ part ∈ (element tag attrs children).parts, ∀ helper arg body,
        (block helper arg body).OccursIn part →
          SameUnless stops (meaning helper arg body) (other helper arg body) :=
      fun part member helper arg body occurs => blocks helper arg body (.part member occurs)
    obtain ⟨inAttrs, inChildren⟩ := forall_mem_parts_element.1 inParts
    obtain ⟨attrValues, childValues⟩ := forall_mem_parts_element.1 values.part
    have attrsSame : SameUnless stops (attrs.mapM (expandAttrsWith value meaning))
        (attrs.mapM (expandAttrsWith value' other)) := by
      cases attrs with
      | none => exact .same _
      | some attrs =>
        rw [Option.mapM_some, Option.mapM_some, expandAttrsWith_eq_mapM, expandAttrsWith_eq_mapM]
        refine SameUnless.map some (.mapM fun attr among => ?_)
        exact (ihAttrs attr among (attrValues attr among) (inAttrs attr among)).map _
    rw [expandWith_element, expandWith_element, expandWith_concat, expandWith_concat]
    refine SameUnless.mapError (attrsSame.bind fun expanded => ?_) (around _)
    refine SameUnless.bind (SameUnless.map _ (.mapM fun child among => ?_)) fun row => .same _
    exact ihChildren child among (childValues child among) (inChildren child among)
  | var path | raw path =>
    rw [expandWith, expandWith, values _ .self path rfl]
    exact .same _
  -- no walk goes into a block, so only what the two make of the block counts
  | block helper arg body => exact blocks helper arg body .self
  | join nodes ih | concat nodes ih | group nodes ih =>
    have rows : SameUnless stops (nodes.mapM (expandWith value meaning))
        (nodes.mapM (expandWith value' other)) :=
      .mapM fun node among => ih node among (values.part node among) fun helper arg body occurs =>
        blocks helper arg body (.part among occurs)
    simp only [expandWith_join, expandWith_concat, expandWith_group]
    exact rows.map _
  | literal | unescaped => exact .same _

/-- Walks over a tree end in the same way, unless the first is stopped, if blocks in the tree do. -/
lemma expandWith_sameUnless {stops : Error → Prop}
    (around : ∀ label error, stops error → stops (error.within label)) {node : Node}
    {meaning other : (helper : String) → (arg : Path) → (body : List Node) → Except Error Fragment}
    (blocks : ∀ helper arg body, (block helper arg body).OccursIn node →
      SameUnless stops (meaning helper arg body) (other helper arg body)) :
    SameUnless stops (node.expandWith value meaning) (node.expandWith value other) :=
  expandWith_sameUnless_of_values around (fun _ _ _ _ => rfl) blocks

variable {value} in
/-- The expansion of a tree depends on the values of the paths in it and the meaning of its blocks
only. -/
lemma expandWith_congr_of_values {node : Node} {value' : Path → Value}
    {meaning other : (helper : String) → (arg : Path) → (body : List Node) → Except Error Fragment}
    (values : node.Everywhere fun inner => ∀ path ∈ inner.path?, value path = value' path)
    (blocks : ∀ helper arg body, (block helper arg body).OccursIn node →
      meaning helper arg body = other helper arg body) :
    node.expandWith value meaning = node.expandWith value' other := by
  have same : SameUnless (fun _ => False) (node.expandWith value meaning)
      (node.expandWith value' other) := by
    refine expandWith_sameUnless_of_values (fun label error => id) values
      fun helper arg body occurs => ?_
    rw [blocks helper arg body occurs]
    exact .same _
  exact same.eq fun error => id

/-- The expansion of a tree depends on the meaning of the blocks in it only. -/
lemma expandWith_congr {node : Node}
    {meaning other : (helper : String) → (arg : Path) → (body : List Node) → Except Error Fragment}
    (blocks : ∀ helper arg body, (block helper arg body).OccursIn node →
      meaning helper arg body = other helper arg body) :
    node.expandWith value meaning = node.expandWith value other :=
  expandWith_congr_of_values (fun _ _ _ _ => rfl) blocks

/-- To rename the error of an expansion is to rename those of the blocks in it. -/
lemma mapError_expandWith {rename : Error → Error}
    (around : ∀ (label : Label) (error : Error),
      rename (error.within label) = (rename error).within label) (node : Node) :
    (node.expandWith value meaning).mapError rename =
      node.expandWith value fun helper arg body => (meaning helper arg body).mapError rename := by
  induction node with
  | element tag attrs children ihAttrs ihChildren =>
    have attrsRenamed : (attrs.mapM (expandAttrsWith value meaning)).mapError rename =
        attrs.mapM (expandAttrsWith value fun helper arg body =>
          (meaning helper arg body).mapError rename) := by
      cases attrs with
      | none => rfl
      | some attrs =>
        rw [Option.mapM_some, Option.mapM_some, mapError_map, expandAttrsWith_eq_mapM,
          expandAttrsWith_eq_mapM, mapError_mapM]
        refine congrArg (some <$> ·) (mapM_congr fun attr among => ?_)
        rw [mapError_map, ihAttrs attr among]
    rw [expandWith_element, expandWith_element, expandWith_concat, expandWith_concat,
      mapError_within (around _), mapError_bind, attrsRenamed]
    refine congrArg (within _) (congrArg _ (funext fun expanded => ?_))
    rw [mapError_bind, mapError_map, mapError_mapM, mapM_congr ihChildren]
    rfl
  | join nodes ih | concat nodes ih | group nodes ih =>
    simp only [expandWith_join, expandWith_concat, expandWith_group]
    rw [mapError_map, mapError_mapM, mapM_congr ih]
  | var | raw | block | literal | unescaped => rfl

end

end Node

namespace Expansion

variable (expansion : Expansion)

/-- A run expands a tree, a block in it being what the run makes of it. -/
lemma run_eq_expandWith (left : Nat) (current : Value) :
    expansion.run left current =
      Node.expandWith (expansion.value current) fun helper arg body =>
        expansion.run left current (.block helper arg body) := by
  cases left with
  | zero =>
    rw [run]
    rfl
  | succ left =>
    rw [run]
    rfl

/-- At any depth, a concatenation runs to what its members run to, one after another. -/
lemma run_concat (left : Nat) (current : Value) (nodes : List Node) :
    expansion.run left current (.concat nodes) =
      List.flatten <$> nodes.mapM (expansion.run left current) := by
  rw [run_eq_expandWith, Node.expandWith_concat]

/-- Where no level is left, a block fails, whatever its helper is. -/
lemma run_block_zero (current : Value) (helper : String) (arg : Path) (body : List Node) :
    expansion.run 0 current (.block helper arg body) =
      within (.block helper arg) (fail (.maxDepth expansion.limit)) := rfl

/-- A block is expanded by its helper, and then by what the helper returns.  The body is rendered
with one block less to be nested. -/
lemma run_block_succ (left : Nat) (current : Value) (helper : String) (arg : Path)
    (body : List Node) :
    expansion.run (left + 1) current (.block helper arg body) =
      within (.block helper arg) (
        match expansion.helper? helper with
        | none => fail (.helperNotFound helper)
        | some call => do
          let result ← call (expansion.value current arg)
            { nodes := body
              context := current
              depth := expansion.limit.toNat - left
              render := fun context => Node.concat <$> expansion.run left context (.concat body) }
          expansion.run left current result) := rfl

end Expansion

end TreeTemplate
