import TreeTemplate.Proofs.Expansion.Limit
import TreeTemplate.Proofs.Expansion.Sequence

/-!
# Trees that refer to the top-level context only

The top-level context is the same at every place of an expansion, however deep in blocks the place
is, and whatever the helpers of these blocks make the current context.  So a tree all of whose paths
start from the top-level context is expanded in the same way under every current context
(`Expansion.run_eq_of_fromTop`).  Its references and the arguments of its blocks have the same values
under both, and by these values builtin helpers render the bodies equally often; that they do so in
other contexts does not matter, by induction on the blocks that may still be nested.
-/

namespace TreeTemplate

/-- All paths in a tree start from the top-level context. -/
def Node.FromTop (node : Node) : Prop :=
  node.Everywhere fun inner => ∀ path ∈ inner.path?, path.isParent

/-- A row of nodes that read from the top only reads from the top only. -/
lemma Node.fromTop_concat {nodes : List Node} (each : ∀ node ∈ nodes, node.FromTop) :
    (concat nodes).FromTop :=
  everywhere_iff.2 ⟨nofun, each⟩

/-- A builtin helper renders its body equally often in all current contexts. -/
lemma Builtin.contexts_equally_many (builtin : Builtin) (value current other : Value) :
    List.Forall₂ (fun _ _ => True) (builtin.contexts value current)
      (builtin.contexts value other) := by
  cases builtin with
  | withValue => exact .cons trivial .nil
  | each => exact List.forall₂_same.2 fun _ _ => trivial
  | ifSet =>
    rw [contexts, contexts]
    split
    · exact .cons trivial .nil
    · exact .nil
  | ifUnset =>
    rw [contexts, contexts]
    split
    · exact .nil
    · exact .cons trivial .nil

namespace Expansion

variable (expansion : Expansion)

/-- A node that reads from the top only has the same values at its paths with any current value. -/
lemma value_eq_of_fromTop {node : Node} (fromTop : node.FromTop) (current other : Value) :
    node.Everywhere fun inner => ∀ path ∈ inner.path?,
      expansion.value current path = expansion.value other path := by
  intro inner occurs path own
  have parent := fromTop inner occurs path own
  cases path with
  | parent segments => rfl
  | this | current segments => cases parent

variable {expansion}

/-- With builtin helpers a tree that refers to the top-level context only is expanded in the same way
under all current contexts. -/
theorem run_eq_of_fromTop (builtin : expansion.OnlyBuiltins) (left : Nat) {node : Node}
    (fromTop : node.FromTop) (current other : Value) :
    expansion.run left current node = expansion.run left other node := by
  induction left generalizing current other node with
  | zero =>
    rw [run_eq_expandWith, run_eq_expandWith expansion 0 other]
    exact Node.expandWith_congr_of_values (expansion.value_eq_of_fromTop fromTop current other)
      fun helper arg body _ => rfl
  | succ left ih =>
    have values := expansion.value_eq_of_fromTop fromTop current other
    rw [run_eq_expandWith, run_eq_expandWith expansion (left + 1) other]
    refine Node.expandWith_congr_of_values values fun helper arg body occurs => ?_
    cases found : expansion.helper? helper with
    | none => rw [run_block_unknown found, run_block_unknown found]
    | some call =>
      obtain ⟨which, rfl⟩ := builtin helper call found
      have inBody : (Node.concat body).FromTop :=
        Node.fromTop_concat (fromTop.of_occursIn occurs).part
      rw [run_block_builtin found, run_block_builtin found, values _ occurs arg rfl]
      refine congrArg (fun rows => within _ (List.flatten <$> rows)) (mapM_eq_of_forall₂ ?_)
      exact (which.contexts_equally_many _ current other).imp fun context context' _ =>
        ih inBody context context'

end Expansion

namespace Engine

/-- Nodes that refer to the top-level context only give the row of their tree in every context, and
under every other limit if as many blocks may still be nested. -/
lemma exists_row_of_fromTop {low : UInt64} {body : List Node}
    (fromTop : ∀ node ∈ body, node.FromTop) {context : Value} {node : Node}
    (succeeds : (new.setMaxDepth low).expandFrom (.tree (.concat body)) context = .ok node)
    (high : UInt64) :
    ∃ row, node = Fragment.toRoot row ∧ node.members = row ∧ ∀ current,
      ((new.setMaxDepth high).expansion context).run low.toNat current (.concat body) = .ok row := by
  obtain ⟨row, runs, rfl⟩ := map_eq_ok_iff.1 succeeds
  have settled := Expansion.run_settled _ runs
  refine ⟨row, rfl, Node.members_toRoot fun member among => (settled member among).ne_group, ?_⟩
  intro current
  have builtin : ((new.setMaxDepth low).expansion context).OnlyBuiltins := new_onlyBuiltins
  have atTop : ((new.setMaxDepth low).expansion context).run low.toNat context (.concat body) =
      .ok row := runs
  rw [run_setMaxDepth new_onlyBuiltins low high,
    Expansion.run_eq_of_fromTop builtin _ (Node.fromTop_concat fromTop) current context, atTop]
  rfl

/-- The top-level context is fixed for a whole expansion.  A body that refers to nothing else is
expanded in the same way under all current contexts.  So if it has a tree by itself, a block of
`with` around it has the same one, whatever its argument is, and a block of `each` has the members of
this tree once for every item of the list that its argument leads to. -/
theorem expandFrom_of_fromTop {low high : UInt64} (deeper : high.toNat = low.toNat + 1)
    {body : List Node} (fromTop : ∀ node ∈ body, node.FromTop) (context : Value) :
    (∀ left current other,
        ((new.setMaxDepth low).expansion context).run left current (.concat body) =
          ((new.setMaxDepth low).expansion context).run left other (.concat body))
      ∧ ∀ node, (new.setMaxDepth low).expandFrom (.tree (.concat body)) context = .ok node →
        (∀ arg : Path,
          (new.setMaxDepth high).expandFrom (.tree (.block "with" arg body)) context = .ok node)
        ∧ ∀ (arg : Path) (items : List Value), arg.resolve context context = some (.list items) →
          (new.setMaxDepth high).expandFrom (.tree (.block "each" arg body)) context =
            .ok (Fragment.toRoot (List.replicate items.length node.members).flatten) := by
  have builtin : ((new.setMaxDepth low).expansion context).OnlyBuiltins := new_onlyBuiltins
  have levels : (new.setMaxDepth high).maxDepth.toNat = low.toNat + 1 := deeper
  refine ⟨fun left => Expansion.run_eq_of_fromTop builtin left (Node.fromTop_concat fromTop), ?_⟩
  intro node succeeds
  obtain ⟨row, rfl, members, rows⟩ := exists_row_of_fromTop fromTop succeeds high
  -- the body gives this row in every context that a helper renders it in
  constructor
  · intro arg
    have found : ((new.setMaxDepth high).expansion context).helper? "with" =
        some Helper.withValue := rfl
    rw [expandFrom_tree_eq_run, levels, Expansion.run_block_withValue found, rows]
    rfl
  · intro arg items resolves
    have found : ((new.setMaxDepth high).expansion context).helper? "each" =
        some Builtin.each.helper := rfl
    have value : ((new.setMaxDepth high).expansion context).value context arg = .list items :=
      congrArg (Option.getD · Value.none) resolves
    rw [expandFrom_tree_eq_run, levels, Expansion.run_block_builtin found, value, members,
      Builtin.contexts, mapM_eq_ok_map fun item _ => rows item, List.map_const']
    rfl

/-- Nested blocks that refer to the top-level context only give the same in a block whose argument
leads nowhere, and twice the same in a block for a list of two. -/
theorem expandFrom_of_fromTop_of_nested_blocks :
    let name : Node := .element "b" none [.var (.parent ["user", "name"])]
    let body : List Node :=
      [.block "each" (.parent ["items"]) [.block "if" (.parent ["user"]) [name]]]
    let context : Value := .map
      [("items", .list [.integer 0, .none]), ("user", .map [("name", .string "a")])]
    let shown : Node := .element "b" none [.literal (.string "a")]
    (3 : UInt64).toNat = (2 : UInt64).toNat + 1 ∧ (∀ node ∈ body, node.FromTop)
      ∧ (new.setMaxDepth 2).expandFrom (.tree (.concat body)) context = .ok (.group [shown, shown])
      ∧ (new.setMaxDepth 3).expandFrom (.tree (.block "with" (.current ["missing"]) body)) context =
        .ok (.group [shown, shown])
      ∧ (new.setMaxDepth 3).expandFrom (.tree (.block "each" (.current ["items"]) body)) context =
        .ok (.group [shown, shown, shown, shown]) := by
  intro name body context shown
  have deeper : (3 : UInt64).toNat = (2 : UInt64).toNat + 1 := rfl
  have fromTop : ∀ node ∈ body, node.FromTop := by
    simp [body, name, Node.FromTop, Node.Everywhere, Node.path?, Path.isParent]
  have succeeds : (new.setMaxDepth 2).expandFrom (.tree (.concat body)) context =
      .ok (.group [shown, shown]) := rfl
  obtain ⟨-, blocks⟩ := expandFrom_of_fromTop deeper fromTop context
  obtain ⟨withBlock, eachBlock⟩ := blocks _ succeeds
  exact ⟨deeper, fromTop, succeeds, withBlock _, eachBlock (.current ["items"]) _ rfl⟩

end Engine

end TreeTemplate
