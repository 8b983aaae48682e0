import TreeTemplate.Proofs.Expansion.Normal
import TreeTemplate.Proofs.Markup.Text

/-!
# Evaluation of sequences

In both modes of evaluation a node turns into a row, and rows of a sequence are put one after the
other.  What is made a tree at the root is that row, and it can be had back from the tree as
`Node.members`, because no row of evaluated nodes has a group in it.  So evaluation and
concatenation may change places, and the same goes for writing: a row of rows has the text of a row
of the trees made of them.

`Engine.apply_sequence` has these laws for expansion and for placeholder syntax at once, as equations
between computations.  A walk over the members ends at the first that fails, so an equation also
says which error a sequence fails with.
-/

namespace TreeTemplate

namespace Node

/-- The members of a group, and any other tree alone: the row that a tree was made of at its root. -/
def members : Node → Fragment
  | .group nodes => nodes
  | node => [node]

/-- A fragment without groups has its nodes as the members of its root. -/
lemma members_toRoot {fragment : Fragment} (single : ∀ node ∈ fragment, ∀ nodes, node ≠ .group nodes) :
    (Fragment.toRoot fragment).members = fragment := by
  match fragment with
  | [] => rfl
  | [node] =>
    have alone := single node List.mem_cons_self
    cases node with
    | group nodes => exact absurd rfl (alone nodes)
    | _ => rfl
  | _ :: _ :: _ => rfl

/-- A settled node is no group. -/
lemma Settled.ne_group {node : Node} (settled : node.Settled) : ∀ nodes, node ≠ .group nodes := by
  cases settled with
  | literal | unescaped | element => exact nofun

/-- No group is left in the row that placeholder syntax makes of a node. -/
lemma ne_group_of_mem_tokenized {node member : Node} (among : member ∈ node.tokenized) :
    ∀ nodes, member ≠ .group nodes := by
  induction node generalizing member with
  | element tag attrs children =>
    rw [tokenized_element] at among
    cases List.mem_singleton.1 among
    exact nofun
  | var | raw | literal | unescaped =>
    cases List.mem_singleton.1 among
    exact nofun
  | block helper arg body ih =>
    rw [tokenized_block, List.mem_cons, List.mem_append, List.mem_singleton,
      List.mem_flatMap] at among
    obtain rfl | ⟨node, inBody, among⟩ | rfl := among
    · exact nofun
    · exact ih node inBody among
    · exact nofun
  | join nodes ih =>
    rw [tokenized_join] at among
    obtain rfl | ⟨fragment, rendered, among⟩ := Fragment.mem_spaced among
    · exact nofun
    · obtain ⟨node, inRow, rfl⟩ := List.mem_map.1 rendered
      exact ih node inRow among
  | concat nodes ih | group nodes ih =>
    simp only [tokenized_concat, tokenized_group, List.mem_flatMap] at among
    obtain ⟨node, inRow, among⟩ := among
    exact ih node inRow among

/-- Trees with the same pieces have the same text. -/
lemma toText_eq_of_pieces_eq {node other : Node} (eq : node.pieces = other.pieces) :
    node.toText = other.toText := by
  rw [toText, toText, write_eq_pieces, write_eq_pieces, eq]

/-- A row has the same text as a group, as a concatenation, and as a tree at the root. -/
lemma toText_toRoot (fragment : Fragment) :
    (Fragment.toRoot fragment).toText = (concat fragment).toText := by
  apply toText_eq_of_pieces_eq
  rw [pieces_concat]
  match fragment with
  | [] => rfl
  | [node] => exact (List.flatMap_singleton _ _).symm
  | _ :: _ :: _ => exact pieces_group _

/-- Rows put one after the other have the text of a concatenation of these rows. -/
lemma toText_concat_flatten (fragments : List Fragment) :
    (concat fragments.flatten).toText = (concat (fragments.map concat)).toText := by
  apply toText_eq_of_pieces_eq
  rw [pieces_concat, pieces_concat, List.flatMap_map, ← List.flatMap_id, List.flatMap_assoc]
  exact List.flatMap_congr fun fragment _ => (pieces_concat fragment).symm

/-- Rows put one after the other with spaces between them have the text of a join of these rows. -/
lemma toText_concat_spaced (fragments : List Fragment) :
    (concat (Fragment.spaced fragments)).toText = (join (fragments.map concat)).toText := by
  apply toText_eq_of_pieces_eq
  cases fragments with
  | nil => rfl
  | cons first rest =>
    rw [List.map_cons, pieces_join_cons, pieces_concat, pieces_concat, Fragment.spaced,
      intercalate_cons_eq_flatMap, List.flatMap_append, List.flatMap_assoc, List.flatMap_map]
    refine congrArg (first.flatMap pieces ++ ·) (List.flatMap_congr fun fragment _ => ?_)
    rw [pieces_concat]
    rfl

end Node

namespace Engine

/-- The row that a tree turns into: expanded against a context, or without one in placeholder
syntax. -/
def fragment (engine : Engine) (context : Option Value) (node : Node) : Except Error Fragment :=
  match context with
  | some context => (engine.expansion context).run engine.maxDepth.toNat context node
  | none => .ok node.tokenized

variable (engine : Engine) (context : Option Value)

/-- A tree applied in an engine is the root made of its fragment. -/
lemma apply_tree (node : Node) :
    engine.apply (.tree node) context = Fragment.toRoot <$> engine.fragment context node := by
  cases context with
  | none => rfl
  | some context => rfl

/-- The members of what a tree expands to are its fragment. -/
lemma members_apply (node : Node) :
    Node.members <$> engine.apply (.tree node) context = engine.fragment context node := by
  rw [apply_tree]
  cases row : engine.fragment context node with
  | error error => rfl
  | ok fragment =>
    refine congrArg Except.ok (Node.members_toRoot fun member among => ?_)
    cases context with
    | none =>
      cases row
      exact Node.ne_group_of_mem_tokenized among
    | some context => exact (Expansion.run_settled _ row member among).ne_group

lemma fragment_space : engine.fragment context Node.space = .ok [Node.space] := by
  cases context with
  | none => rfl
  | some context =>
    rw [fragment, Expansion.run_eq_expandWith]
    rfl

/-- The fragment of a concatenation is that of its members, one after another. -/
lemma fragment_concat (nodes : List Node) :
    engine.fragment context (.concat nodes) =
      List.flatten <$> nodes.mapM (engine.fragment context) := by
  cases context with
  | none =>
    have walk : nodes.mapM (engine.fragment none) = .ok (nodes.map Node.tokenized) :=
      mapM_eq_ok_map fun _ _ => rfl
    rw [walk, fragment, Node.tokenized_concat, List.flatMap_def]
    rfl
  | some context =>
    unfold fragment
    dsimp only
    rw [Expansion.run_eq_expandWith, Node.expandWith_concat]

/-- A group has the fragment of the concatenation of its members. -/
lemma fragment_group (nodes : List Node) :
    engine.fragment context (.group nodes) = engine.fragment context (.concat nodes) := by
  cases context with
  | none => rw [fragment, fragment, Node.tokenized_group, Node.tokenized_concat]
  | some context =>
    unfold fragment
    dsimp only
    rw [Expansion.run_eq_expandWith, Node.expandWith_group, Node.expandWith_concat]

/-- The fragment of a join is that of its members with a space between each two. -/
lemma fragment_join (nodes : List Node) :
    engine.fragment context (.join nodes) =
      Fragment.spaced <$> nodes.mapM (engine.fragment context) := by
  cases context with
  | none =>
    have walk : nodes.mapM (engine.fragment none) = .ok (nodes.map Node.tokenized) :=
      mapM_eq_ok_map fun _ _ => rfl
    rw [walk, fragment, Node.tokenized_join]
    rfl
  | some context =>
    unfold fragment
    dsimp only
    rw [Expansion.run_eq_expandWith, Node.expandWith_join]

/-- Joined nodes turn into what they turn into in a row with spaces between them. -/
lemma fragment_join_eq_concat (nodes : List Node) :
    engine.fragment context (.join nodes) =
      engine.fragment context (.concat (nodes.intersperse Node.space)) := by
  rw [fragment_concat, mapM_intersperse (engine.fragment_space context), fragment_join,
    Functor.map_map]
  rfl

/-- The text of an evaluated tree is that of the row it was made of. -/
lemma apply_toText (node : Node) :
    engine.apply (.tree node) context >>= Node.toText =
      engine.fragment context node >>= fun fragment => (Node.concat fragment).toText := by
  rw [apply_tree, bind_map_left]
  exact congrArg (engine.fragment context node >>= ·) (funext Node.toText_toRoot)

/-- Sequences are evaluated member by member, in both modes: expansion against a context, and
placeholder syntax if there is none.  The members of what a concatenation or a group gives are those
of what its members give, in order, and it fails as the first of its members does that fails.  A join
is a concatenation with spaces between its members.  So the text of an evaluated sequence is made of
the texts of its evaluated members, as the text of any sequence is made of those of its members. -/
theorem apply_sequence (nodes : List Node) :
    let evaluate (node : Node) := engine.apply (.tree node) context
    Node.members <$> evaluate (.concat nodes) =
        List.flatten <$> nodes.mapM (fun node => Node.members <$> evaluate node)
      ∧ evaluate (.group nodes) = evaluate (.concat nodes)
      ∧ evaluate (.join nodes) = evaluate (.concat (nodes.intersperse (.literal (.string " "))))
      ∧ evaluate (.concat nodes) >>= Node.toText =
        (do String.join <$> (← nodes.mapM evaluate).mapM Node.toText)
      ∧ evaluate (.join nodes) >>= Node.toText =
        (do String.intercalate " " <$> (← nodes.mapM evaluate).mapM Node.toText)
      ∧ (Node.concat nodes).toText = String.join <$> nodes.mapM Node.toText
      ∧ (Node.join nodes).toText = String.intercalate " " <$> nodes.mapM Node.toText := by
  intro evaluate
  have members : (fun node => Node.members <$> evaluate node) = engine.fragment context :=
    funext (engine.members_apply context)
  have roots : nodes.mapM evaluate =
      List.map Fragment.toRoot <$> nodes.mapM (engine.fragment context) := by
    rw [← mapM_map_result]
    exact mapM_congr fun node _ => engine.apply_tree context node
  -- the text of a tree that was evaluated is that of the row it was made of
  have texts : ∀ fragments : List Fragment, (fragments.map Fragment.toRoot).mapM Node.toText =
      (fragments.map Node.concat).mapM Node.toText := by
    intro fragments
    rw [List.mapM_map, List.mapM_map]
    exact mapM_congr fun fragment _ => Node.toText_toRoot fragment
  refine ⟨?_, ?_, ?_, ?_, ?_, Node.toText_concat nodes, Node.toText_join nodes⟩
  · rw [members, members_apply, fragment_concat]
  · show engine.apply _ _ = engine.apply _ _
    rw [apply_tree, fragment_group, ← apply_tree]
  · show engine.apply _ _ = engine.apply _ _
    rw [apply_tree, fragment_join_eq_concat, ← apply_tree]
    rfl
  · show engine.apply _ _ >>= _ = _
    rw [apply_toText, fragment_concat, roots, bind_map_left, bind_map_left]
    refine congrArg (nodes.mapM (engine.fragment context) >>= ·) (funext fun fragments => ?_)
    rw [texts, Node.toText_concat_flatten, Node.toText_concat]
  · show engine.apply _ _ >>= _ = _
    rw [apply_toText, fragment_join, roots, bind_map_left, bind_map_left]
    refine congrArg (nodes.mapM (engine.fragment context) >>= ·) (funext fun fragments => ?_)
    rw [texts, Node.toText_concat_spaced, Node.toText_join]

end Engine

end TreeTemplate
