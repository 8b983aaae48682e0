import TreeTemplate.Node.Build
import TreeTemplate.Proofs.Engine
import TreeTemplate.Proofs.Path.Append
import TreeTemplate.Proofs.Value.Members

/-!
# Blocks for every member

A block of `each` renders its body in every member of the value that its argument leads to, and a
block of `with` renders it in the one value that its own argument leads to.  A member of a value is
found by a key, so that the argument with this key behind it leads to the member.  So a block of
`each` is a row of blocks of `with`, one for each key (`Expansion.run_block_each`).  The two differ
in what stands around an error only, since the blocks that it occurred in are others.
-/

namespace TreeTemplate

namespace Expansion

variable {expansion : Expansion}

/-- A path with a key behind it leads to the member of the value that the path leads to. -/
lemma value_append {current value member : Value} {arg : Path} {key : String} (other : arg ≠ .this)
    (resolves : arg.resolve current expansion.top = some value)
    (found : value.member? key = some member) :
    expansion.value current (arg.append [key]) = member := by
  rw [Expansion.value, Path.resolve_append other, resolves, Option.bind_some, Value.follow?, found]
  rfl

/-- A block of `each` is a row of blocks of `with`, one for each key that leads to a member, but for
the places around an error. -/
theorem run_block_each {each withValue : String}
    (foundEach : expansion.helper? each = some Helper.each)
    (foundWith : expansion.helper? withValue = some Helper.withValue) {arg : Path}
    {keys : List String} {current : Value}
    (members : List.Forall₂ (fun key member => expansion.value current (arg.append [key]) = member)
      keys (Builtin.each.contexts (expansion.value current arg) current))
    (left : Nat) (body : List Node) :
    (expansion.run (left + 1) current (.block each arg body)).mapError Error.cause =
      (expansion.run (left + 1) current (.concat
        (keys.map fun key => .block withValue (arg.append [key]) body))).mapError Error.cause := by
  have builtin : expansion.helper? each = some Builtin.each.helper := foundEach
  rw [run_block_builtin builtin, mapError_cause_within, mapError_map, mapError_mapM, run_concat,
    mapError_map, mapError_mapM, List.mapM_map]
  refine congrArg (List.flatten <$> ·) (mapM_eq_of_forall₂ (members.flip.imp ?_))
  intro member key value
  rw [Function.comp_apply, run_block_withValue foundWith, mapError_cause_within, value]

end Expansion

namespace Engine

/-- A limit above zero is one block, and some number more that may be nested in it. -/
lemma exists_levels {depth : UInt64} (positive : 0 < depth) :
    ∃ left, (new.setMaxDepth depth).maxDepth.toNat = left + 1 :=
  Nat.exists_eq_add_one.2 (UInt64.lt_iff_toNat_lt.1 positive)

/-- The blocks of `with` for keys that are valid segments can be built. -/
lemma blocks_of_segments {text : String} {path : Path} (valid : Path.ofText? text = some path)
    {keys : List String} (segments : ∀ key ∈ keys, Path.isSegment key) (body : List Node) :
    (keys.mapM fun key => Node.blockOf "with" (text ++ "." ++ key) body) =
      .ok (keys.map fun key => .block "with" (path.append [key]) body) := by
  refine mapM_eq_ok_map fun key among => ?_
  have name : isIdentifier "with" := rfl
  rw [Node.blockOf, Block.of, if_pos name, Path.parse,
    Path.ofText?_append_segment valid (segments key among)]
  rfl

/-- A block of `each` is expanded as the blocks of `with` are for the keys of the members, if these
are valid segments. -/
lemma expandFrom_each_of_resolve {depth : UInt64} (positive : 0 < depth) {context value : Value}
    (wf : context.WellFormed) {path : Path} (other : path ≠ .this)
    (resolves : path.resolve context context = some value) (body : List Node) :
    SameButPlace ((new.setMaxDepth depth).expandFrom (.tree (.block "each" path body)) context)
      ((new.setMaxDepth depth).expandFrom (.tree (.concat
        (value.memberKeys.map fun key => .block "with" (path.append [key]) body))) context) := by
  obtain ⟨left, levels⟩ := exists_levels positive
  have foundEach : ((new.setMaxDepth depth).expansion context).helper? "each" =
      some Helper.each := rfl
  have foundWith : ((new.setMaxDepth depth).expansion context).helper? "with" =
      some Helper.withValue := rfl
  have argument : ((new.setMaxDepth depth).expansion context).value context path = value :=
    congrArg (Option.getD · Value.none) resolves
  have members := Value.forall₂_memberKeys (wf.resolve wf resolves) context
  refine sameButPlace_of_mapError_cause ?_
  rw [expandFrom_tree_eq_run, expandFrom_tree_eq_run, mapError_map, mapError_map, levels,
    Expansion.run_block_each foundEach foundWith]
  rw [argument]
  exact members.imp fun key member found => Expansion.value_append other resolves found

/-- A block of `each` is empty if its path leads to neither a list nor a map. -/
lemma expandFrom_each_of_no_members {depth : UInt64} (positive : 0 < depth) {context : Value}
    {path : Path} (noList : ∀ items, path.resolve context context ≠ some (.list items))
    (noMap : ∀ entries, path.resolve context context ≠ some (.map entries)) (body : List Node) :
    (new.setMaxDepth depth).expandFrom (.tree (.block "each" path body)) context =
      .ok (.group []) := by
  obtain ⟨left, levels⟩ := exists_levels positive
  have found : ((new.setMaxDepth depth).expansion context).helper? "each" =
      some Builtin.each.helper := rfl
  have noMembers : Builtin.each.contexts
      (((new.setMaxDepth depth).expansion context).value context path) context = [] := by
    change Builtin.each.contexts ((path.resolve context context).getD .none) context = []
    cases leads : path.resolve context context with
    | none => rfl
    | some value =>
      cases value with
      | list items => exact absurd leads (noList items)
      | map entries => exact absurd leads (noMap entries)
      | none | bool | integer | float | string => rfl
  rw [expandFrom_tree_eq_run, levels, Expansion.run_block_builtin found, noMembers]
  rfl

/-- A block of `each` is indexed with `with`.  Where blocks may be nested at all, it ends as the row of
blocks of `with` does whose paths have the indices of the items behind them, or the keys of the entries
if these can stand in paths: with the same tree, or with an error of the same kind and message.
Where its path leads to neither a list nor a map it is empty. -/
theorem expandFrom_each {depth : UInt64} (positive : 0 < depth) {context : Value}
    (wf : context.WellFormed) {text : String} {path : Path} (valid : Path.ofText? text = some path)
    (body : List Node) :
    let found := path.resolve context context
    let expands := fun node => (new.setMaxDepth depth).expandFrom (.tree node) context
    let withKey := fun key => Node.blockOf "with" (text ++ "." ++ key) body
    (path ≠ .this → ∀ items, found = some (.list items) →
        ∃ blocks, ((List.range items.length).mapM fun index => withKey (toString index)) = .ok blocks
          ∧ SameButPlace (expands (.block "each" path body)) (expands (.concat blocks)))
      ∧ (path ≠ .this → ∀ entries : Entries Value, found = some (.map entries) →
        (∀ key ∈ entries.keys, Path.isSegment key) →
          entries.keys.Pairwise (· < ·)
            ∧ ∃ blocks, entries.keys.mapM withKey = .ok blocks
              ∧ SameButPlace (expands (.block "each" path body)) (expands (.concat blocks)))
      ∧ ((∀ items, found ≠ some (.list items)) → (∀ entries, found ≠ some (.map entries)) →
        expands (.block "each" path body) = .ok (.group [])) := by
  intro found expands withKey
  refine ⟨?_, ?_, fun noList noMap => expandFrom_each_of_no_members positive noList noMap body⟩
  · intro other items resolves
    have segments : ∀ key ∈ (Value.list items).memberKeys, Path.isSegment key :=
      List.forall_mem_map.2 fun index _ => Path.isSegment_toString index
    have built := blocks_of_segments valid segments body
    rw [Value.memberKeys, List.mapM_map] at built
    exact ⟨_, built, expandFrom_each_of_resolve positive wf other resolves body⟩
  · intro other entries resolves segments
    have sorted := (wf.resolve wf resolves).1
    have built := blocks_of_segments valid segments body
    exact ⟨sorted, _, built, expandFrom_each_of_resolve positive wf other resolves body⟩

/-- The items of a list and the values of a map are shown as by their indices and keys, a block that is
nested too deeply fails with the same message in both, and a number has no members. -/
theorem expandFrom_each_of_items_and_scores :
    let items : Path := .parent ["items"]
    let scores : Path := .current ["scores"]
    let body : List Node := [.element "li" none [.var .this]]
    let nested : List Node := [.block "if" .this [.var .this]]
    let context : Value := .map
      [("count", .integer 2), ("items", .list [.string "x", .string "y"]),
        ("scores", .map [("a", .integer 1), ("b", .integer 2)])]
    let expands := fun node => (new.setMaxDepth 1).expandFrom (.tree node) context
    (0 : UInt64) < 1 ∧ context.WellFormed
      ∧ Path.ofText? "../items" = some items ∧ Path.ofText? "scores" = some scores
      ∧ (∃ blocks, (List.range 2).mapM (fun index =>
            Node.blockOf "with" ("../items" ++ "." ++ toString index) body) = .ok blocks
          ∧ SameButPlace (expands (.block "each" items body)) (expands (.concat blocks)))
      ∧ expands (.block "each" items body) = .ok (.group
        [.element "li" none [.literal (.string "x")], .element "li" none [.literal (.string "y")]])
      ∧ (∃ blocks, ["a", "b"].mapM (fun key =>
            Node.blockOf "with" ("scores" ++ "." ++ key) nested) = .ok blocks
          ∧ SameButPlace (expands (.block "each" scores nested)) (expands (.concat blocks)))
      ∧ expands (.block "each" scores nested) =
        .error ⟨.maxDepth 1, [.block "each" scores, .block "if" .this], none⟩
      ∧ expands (.block "each" (.current ["count"]) body) = .ok (.group []) := by
  intro items scores body nested context expands
  have positive : (0 : UInt64) < 1 := by decide
  have wf : context.WellFormed := by
    simp only [context, Value.WellFormed, Value.EntriesWellFormed, Value.AllWellFormed,
      Entries.Sorted]
    decide
  have validItems : Path.ofText? "../items" = some items := rfl
  have validScores : Path.ofText? "scores" = some scores := rfl
  have validCount : Path.ofText? "count" = some (.current ["count"]) := rfl
  obtain ⟨list, -, -⟩ := expandFrom_each positive wf validItems body
  obtain ⟨-, map, -⟩ := expandFrom_each positive wf validScores nested
  obtain ⟨-, -, other⟩ := expandFrom_each positive wf validCount body
  have segments : ∀ key ∈ ["a", "b"], Path.isSegment key := by decide
  have indexed := list (by decide) [.string "x", .string "y"] rfl
  have keyed := map (by decide) [("a", .integer 1), ("b", .integer 2)] rfl segments
  have empty := other (by intro items leads; cases leads) (by intro entries leads; cases leads)
  exact ⟨positive, wf, validItems, validScores, indexed, rfl, keyed.2, rfl, empty⟩

end Engine

end TreeTemplate
