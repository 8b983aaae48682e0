import TreeTemplate.Proofs.Engine
import TreeTemplate.Proofs.Helper.Builtin
import TreeTemplate.Proofs.Node.Place

/-!
# Why an expansion fails

The walk over a tree never fails by itself: an error in it is that of a block, and the places
between the root and the block are put around it (`Node.expandWith_eq_error`).  With builtin helpers
a block fails for two reasons only.  Its helper is not registered, or as many blocks are around it as
may be nested.  The body of a block counts as one level deeper, so by induction on the levels that
are left the trail of an error is the way to a block of the template, and the number of blocks on
that way tells the two reasons apart: `Engine.expandFrom_eq_error`.
-/

namespace TreeTemplate

namespace Node

variable {value : Path → Value}
  {meaning : (helper : String) → (arg : Path) → (body : List Node) → Except Error Fragment}

/-- The error of a tree is that of a block in it, under the places around the block.  The walk stops
at blocks, so no other block is among these places. -/
def FailsAtBlock (meaning : (helper : String) → (arg : Path) → (body : List Node) →
    Except Error Fragment) (node : Node) (error : Error) : Prop :=
  ∃ helper arg body labels inner, (block helper arg body).OccursUnder labels node
    ∧ blockCount labels = 0 ∧ meaning helper arg body = .error inner ∧ error = inner.under labels

/-- A node fails as one of its parts does, and its own place is put around the error. -/
lemma FailsAtBlock.part {node part : Node} {error : Error} (member : part ∈ node.parts)
    (noBlock : blockCount node.label?.toList = 0) (h : part.FailsAtBlock meaning error) :
    node.FailsAtBlock meaning (error.under node.label?.toList) := by
  obtain ⟨helper, arg, body, labels, inner, occurs, none, fails, rfl⟩ := h
  refine ⟨helper, arg, body, node.label?.toList ++ labels, inner, .part member occurs, ?_, fails, ?_⟩
  · rw [blockCount_append, noBlock, none]
  · exact Error.under_under _ _ _

/-- If attributes fail, one of their values fails with the same error. -/
lemma exists_of_expandAttrs_eq_error {attrs : Option (List (String × Node))} {error : Error}
    (h : attrs.mapM (expandAttrsWith value meaning) = .error error) :
    ∃ attr ∈ attrs.getD [], attr.2.expandWith value meaning = .error error := by
  cases attrs with
  | none => cases h
  | some attrs =>
    have walk : expandAttrsWith value meaning attrs = .error error := map_eq_error_iff.1 h
    rw [expandAttrsWith_eq_mapM] at walk
    obtain ⟨attr, among, fails⟩ := exists_of_mapM_eq_error walk
    exact ⟨attr, among, map_eq_error_iff.1 fails⟩

/-- Where a node fails, one of its blocks does: nothing else in the walk can fail. -/
lemma expandWith_eq_error {node : Node} {error : Error}
    (h : node.expandWith value meaning = .error error) : node.FailsAtBlock meaning error := by
  induction node generalizing error with
  | element tag attrs children ihAttrs ihChildren =>
    rw [expandWith_element] at h
    obtain ⟨inner, fails, rfl⟩ := within_eq_error_iff.1 h
    rcases bind_eq_error_iff.1 fails with inAttrs | ⟨expanded, -, fails⟩
    · obtain ⟨attr, among, fails⟩ := exists_of_expandAttrs_eq_error inAttrs
      have member : attr.2 ∈ (element tag attrs children).parts :=
        List.mem_append_left _ (List.mem_map_of_mem among)
      exact (ihAttrs attr among fails).part member rfl
    · rcases bind_eq_error_iff.1 fails with inRow | ⟨row, -, fails⟩
      · rw [expandWith_concat, map_eq_error_iff] at inRow
        obtain ⟨child, among, fails⟩ := exists_of_mapM_eq_error inRow
        have member : child ∈ (element tag attrs children).parts :=
          List.mem_append_right _ among
        exact (ihChildren child among fails).part member rfl
      · cases fails
  | block helper arg body => exact ⟨helper, arg, body, [], error, .self, rfl, h, rfl⟩
  | join nodes ih | concat nodes ih | group nodes ih =>
    simp only [expandWith_join, expandWith_concat, expandWith_group, map_eq_error_iff] at h
    obtain ⟨node, among, fails⟩ := exists_of_mapM_eq_error h
    exact (ih node among fails).part among rfl
  | var | raw | literal | unescaped => cases h

end Node

namespace Expansion

variable {expansion : Expansion}

/-- A run fails as it does for a block in the tree, under the places around the block. -/
lemma exists_block_of_run_eq_error {left : Nat} {current : Value} {node : Node} {error : Error}
    (h : expansion.run left current node = .error error) :
    ∃ helper arg body labels inner, (Node.block helper arg body).OccursUnder labels node
      ∧ blockCount labels = 0 ∧ expansion.run left current (.block helper arg body) = .error inner
      ∧ error = inner.under labels := by
  rw [run_eq_expandWith] at h
  exact Node.expandWith_eq_error h

/-- An error says that a block of a tree cannot be expanded, and how many blocks are around it:
fewer than may be nested if its helper is not registered, and else just as many. -/
def Blames (expansion : Expansion) (left : Nat) (node : Node) (error : Error) : Prop :=
  ∃ helper arg body labels, (Node.block helper arg body).OccursUnder labels node
    ∧ ((error = ⟨.helperNotFound helper, labels ++ [.block helper arg], none⟩
        ∧ expansion.helper? helper = none ∧ blockCount labels < left)
      ∨ (error = ⟨.maxDepth expansion.limit, labels ++ [.block helper arg], none⟩
        ∧ blockCount labels = left))

/-- An error of the body of a block is one of the block, with one block more to be nested. -/
lemma Blames.block {left : Nat} {body : List Node} {error : Error} (helper : String) (arg : Path)
    (h : expansion.Blames left (.concat body) error) :
    expansion.Blames (left + 1) (.block helper arg body) (error.within (.block helper arg)) := by
  obtain ⟨helper', arg', body', labels, occurs, reason⟩ := h
  have inside : (Node.block helper' arg' body').OccursUnder (.block helper arg :: labels)
      (.block helper arg body) := by
    cases occurs with
    | @part _ part _ member occurs =>
      have inBody : part ∈ (Node.block helper arg body).parts := member
      exact .part inBody occurs
  refine ⟨helper', arg', body', _, inside, ?_⟩
  rw [blockCount_block]
  rcases reason with ⟨rfl, missing, few⟩ | ⟨rfl, many⟩
  · exact .inl ⟨rfl, missing, Nat.succ_lt_succ few⟩
  · exact .inr ⟨rfl, congrArg Nat.succ many⟩

/-- An error of a block in a tree is one of the tree, under the places between them. -/
lemma Blames.under {left : Nat} {node inner : Node} {error : Error} {labels : List Label}
    (occurs : inner.OccursUnder labels node) (noBlock : blockCount labels = 0)
    (h : expansion.Blames left inner error) : expansion.Blames left node (error.under labels) := by
  obtain ⟨helper, arg, body, more, occursInner, reason⟩ := h
  refine ⟨helper, arg, body, labels ++ more, occursInner.trans occurs, ?_⟩
  rw [blockCount_append, noBlock, Nat.zero_add, List.append_assoc]
  rcases reason with ⟨rfl, missing, few⟩ | ⟨rfl, many⟩
  · exact .inl ⟨rfl, missing, few⟩
  · exact .inr ⟨rfl, many⟩

/-- With builtin helpers every error of a run blames a block of the tree. -/
lemma run_eq_error (builtin : expansion.OnlyBuiltins) {left : Nat} {current : Value} {node : Node}
    {error : Error} (h : expansion.run left current node = .error error) :
    expansion.Blames left node error := by
  induction left generalizing current node error with
  | zero =>
    obtain ⟨helper, arg, body, labels, inner, occurs, noBlock, fails, rfl⟩ :=
      exists_block_of_run_eq_error h
    rw [run_block_zero] at fails
    cases fails
    exact Blames.under occurs noBlock ⟨helper, arg, body, [], .self, .inr ⟨rfl, rfl⟩⟩
  | succ left ih =>
    obtain ⟨helper, arg, body, labels, inner, occurs, noBlock, fails, rfl⟩ :=
      exists_block_of_run_eq_error h
    refine Blames.under occurs noBlock ?_
    cases found : expansion.helper? helper with
    | none =>
      rw [run_block_unknown found] at fails
      cases fails
      exact ⟨helper, arg, body, [], .self, .inl ⟨rfl, found, Nat.succ_pos left⟩⟩
    | some call =>
      obtain ⟨builtin, rfl⟩ := builtin helper call found
      -- what a builtin helper returns is expanded already, so the error comes from the body
      rw [run_block_builtin found] at fails
      obtain ⟨bodyError, rows, rfl⟩ := within_eq_error_iff.1 fails
      obtain ⟨context, -, inBody⟩ := exists_of_mapM_eq_error (map_eq_error_iff.1 rows)
      exact (ih inBody).block helper arg

end Expansion

/-- With builtin helpers an expansion fails at a block of the template only, and the trail of the
error is the way to it: the helper of the block is not registered and fewer blocks are around it
than may be nested, or just as many as may be nested are around it.  So an expansion succeeds if all
helpers are registered and no block is nested too deeply, whatever data is missing. -/
theorem Engine.expandFrom_eq_error {engine : Engine} (builtin : engine.OnlyBuiltins)
    (template : Node) (context : Value) :
    (∀ error, engine.expandFrom (.tree template) context = .error error →
      ∃ helper arg body labels, (Node.block helper arg body).OccursUnder labels template
        ∧ error.trail = labels ++ [.block helper arg]
        ∧ ((error.kind = .helperNotFound ∧ engine.helpers.lookup helper = none
            ∧ error.message = "unknown helper `" ++ helper ++ "`"
            ∧ blockCount labels < engine.maxDepth.toNat)
          ∨ (error.kind = .maxDepth ∧ blockCount labels = engine.maxDepth.toNat)))
      ∧ ((∀ helper arg body labels, (Node.block helper arg body).OccursUnder labels template →
          (engine.helpers.lookup helper).isSome ∧ blockCount labels < engine.maxDepth.toNat) →
        ∃ node, engine.expandFrom (.tree template) context = .ok node) := by
  have blames : ∀ error, engine.expandFrom (.tree template) context = .error error →
      (engine.expansion context).Blames engine.maxDepth.toNat template error := by
    intro error fails
    have builtinRun : (engine.expansion context).OnlyBuiltins := builtin
    exact Expansion.run_eq_error builtinRun (map_eq_error_iff.1 fails)
  constructor
  · intro error fails
    obtain ⟨helper, arg, body, labels, occurs, reason⟩ := blames error fails
    refine ⟨helper, arg, body, labels, occurs, ?_⟩
    rcases reason with ⟨rfl, missing, few⟩ | ⟨rfl, many⟩
    · exact ⟨rfl, .inl ⟨rfl, missing, rfl, few⟩⟩
    · exact ⟨rfl, .inr ⟨rfl, many⟩⟩
  · intro sound
    -- an error would blame a block, and by assumption none is to blame
    cases expands : engine.expandFrom (.tree template) context with
    | ok node => exact ⟨node, rfl⟩
    | error error =>
      obtain ⟨helper, arg, body, labels, occurs, reason⟩ := blames error expands
      obtain ⟨registered, few⟩ := sound helper arg body labels occurs
      rcases reason with ⟨-, missing, -⟩ | ⟨-, many⟩
      · have found : (engine.expansion context).helper? helper ≠ none :=
          Option.isSome_iff_ne_none.1 registered
        exact absurd missing found
      · exact absurd many (Nat.ne_of_lt few)

/-- A missing helper is named with the way to its block, and without it the same limit suffices. -/
theorem Engine.expandFrom_eq_error_of_missing_helper :
    let engine := Engine.new.setMaxDepth 2
    let items : Path := .current ["items"]
    let broken : Node :=
      .element "ul" none [.block "each" items [.element "li" none [.block "shout" .this []]]]
    let sound : Node := .block "each" items [.block "with" (.current ["name"]) [.var .this]]
    let context : Value := .map [("items", .list [.none])]
    let error : Error :=
      ⟨.helperNotFound "shout",
        [.element "ul", .block "each" items, .element "li", .block "shout" .this], none⟩
    engine.OnlyBuiltins ∧ engine.expandFrom (.tree broken) context = .error error
      ∧ (∃ helper arg body labels, (Node.block helper arg body).OccursUnder labels broken
        ∧ error.trail = labels ++ [.block helper arg]
        ∧ ((error.kind = .helperNotFound ∧ engine.helpers.lookup helper = none
            ∧ error.message = "unknown helper `" ++ helper ++ "`"
            ∧ blockCount labels < engine.maxDepth.toNat)
          ∨ (error.kind = .maxDepth ∧ blockCount labels = engine.maxDepth.toNat)))
      ∧ (∀ helper arg body labels, (Node.block helper arg body).OccursUnder labels sound →
        (engine.helpers.lookup helper).isSome ∧ blockCount labels < engine.maxDepth.toNat)
      ∧ ∃ node, engine.expandFrom (.tree sound) context = .ok node := by
  intro engine items broken sound context error
  have builtin : engine.OnlyBuiltins := new_onlyBuiltins
  have fails : engine.expandFrom (.tree broken) context = .error error := rfl
  have registered : ∀ helper arg body labels,
      (Node.block helper arg body).OccursUnder labels sound →
        (engine.helpers.lookup helper).isSome ∧ blockCount labels < engine.maxDepth.toNat := by
    intro helper arg body labels occurs
    simp only [sound] at occurs
    cases occurs with
    | self => decide
    | part member occurs =>
      cases List.mem_singleton.1 member
      cases occurs with
      | self => decide
      | part member occurs =>
        cases List.mem_singleton.1 member
        cases occurs with
        | part member => cases member
  obtain ⟨located, -⟩ := expandFrom_eq_error builtin broken context
  obtain ⟨-, succeeds⟩ := expandFrom_eq_error builtin sound context
  exact ⟨builtin, fails, located error fails, registered, succeeds registered⟩

end TreeTemplate
