import TreeTemplate.Proofs.Expansion.Outline
import TreeTemplate.Proofs.Expansion.Each

/-!
# Blocks of `with` and longer paths

A block of `with` makes the value of its argument the current context, and in a body without blocks
only references see it.  So it does the same to put the path of the argument in front of the path of
every reference (`Node.prefixed`): paths compose, also where they lead nowhere, because an absent
value has no members (`Expansion.value_compose`).
-/

namespace TreeTemplate

/-- Nothing is found in an absent value. -/
lemma Value.follow?_none (segments : List String) :
    ((Value.none).follow? segments).getD .none = .none := by
  cases segments with
  | nil => rfl
  | cons => rfl

namespace Node

section

variable (value : Path → Value)
  (meaning : (helper : String) → (arg : Path) → (body : List Node) → Except Error Fragment)

/-- To rename the paths of references is to give them the values of the new paths. -/
lemma expandWith_renamed (rename : Path → Path) {node : Node} (free : node.BlockFree) :
    (node.filled (fun path => .var (rename path)) (fun path => .raw (rename path))).expandWith
        value meaning =
      node.expandWith (fun path => value (rename path)) meaning := by
  induction node with
  | element tag attrs children ihAttrs ihChildren =>
    obtain ⟨inAttrs, inChildren⟩ := forall_mem_parts_element.1 free.part
    have attrsSame : (attrs.map (filledAttrs (fun path => .var (rename path))
          (fun path => .raw (rename path)))).mapM (expandAttrsWith value meaning) =
        attrs.mapM (expandAttrsWith (fun path => value (rename path)) meaning) := by
      cases attrs with
      | none => rfl
      | some attrs =>
        rw [Option.map_some, Option.mapM_some, Option.mapM_some, filledAttrs_eq_map,
          expandAttrsWith_eq_mapM, expandAttrsWith_eq_mapM, List.mapM_map]
        refine congrArg (some <$> ·) (mapM_congr fun attr among => ?_)
        rw [Function.comp_apply, ihAttrs attr among (inAttrs attr among)]
    have childrenSame := mapM_congr fun child among =>
      ihChildren child among (inChildren child among)
    rw [filled_element, expandWith_element, expandWith_element, expandWith_concat,
      expandWith_concat, attrsSame, List.mapM_map, ← childrenSame]
    rfl
  | block helper arg body => exact absurd .self (free helper arg body)
  | join nodes ih | concat nodes ih | group nodes ih =>
    have same := mapM_congr fun node among => ih node among (free.part node among)
    simp only [filled_join, filled_concat, filled_group, expandWith_join, expandWith_concat,
      expandWith_group, List.mapM_map]
    rw [← same]
    rfl
  | var | raw | literal | unescaped => rfl

end

/-- The tree with a path in front of the path of every reference. -/
def prefixed (path : Path) (node : Node) : Node :=
  node.filled (fun inner => .var (path.compose inner)) (fun inner => .raw (path.compose inner))

end Node

namespace Expansion

variable {expansion : Expansion}

/-- The value of a composed path is what the second path leads to from the value of the first, and
this also if the first path leads nowhere. -/
lemma value_compose {path inner : Path} (other : path ≠ .this) (relative : inner.IsRelative)
    (current : Value) :
    expansion.value current (path.compose inner) =
      expansion.value (expansion.value current path) inner := by
  rw [Expansion.value, Path.resolve_compose other relative]
  obtain ⟨segments, rfl⟩ := relative.exists_current
  cases leads : path.resolve current expansion.top with
  | none =>
    have absent : expansion.value current path = .none := congrArg (Option.getD · Value.none) leads
    rw [absent]
    exact (Value.follow?_none segments).symm
  | some found =>
    have value : expansion.value current path = found := congrArg (Option.getD · Value.none) leads
    rw [value]
    rfl

/-- A tree without blocks is expanded in the context of a path as it is with the path in front of all
its paths. -/
lemma run_prefixed {path : Path} (other : path ≠ .this) {node : Node} (free : node.BlockFree)
    (relative : node.Everywhere fun inner => ∀ path ∈ inner.path?, path.IsRelative)
    (left levels : Nat) (current : Value) :
    expansion.run left current (node.prefixed path) =
      expansion.run levels (expansion.value current path) node := by
  rw [run_eq_expandWith, run_eq_expandWith expansion levels, Node.prefixed,
    Node.expandWith_renamed _ _ _ free]
  refine Node.expandWith_congr_of_values (fun inner occurs inside own => ?_)
    fun helper arg body occurs => absurd occurs (free helper arg body)
  exact value_compose other (relative inner occurs inside own) current

/-- A tree without blocks is always expanded. -/
lemma exists_run_of_blockFree {node : Node} (free : node.BlockFree) (left : Nat) (current : Value) :
    ∃ fragment, expansion.run left current node = .ok fragment := by
  rw [run_eq_expandWith]
  exact ⟨_, Node.expandWith_blockFree free⟩

end Expansion

namespace Engine

/-- Paths compose.  A path with a dot and a relative path behind it is a path, which starts where the
first one starts and leads on by the second one from where the first one leads; and a relative path
behind a marker is followed from the top-level context.  So a block of `with` is expanded as its body
is with the path of the argument in front of every path, whether this path leads anywhere or not, if
the body is one template without blocks that refers to the current context by relative paths only. -/
theorem expandFrom_prefixed {depth : UInt64} (positive : 0 < depth) {text : String} {path : Path}
    (valid : Path.ofText? text = some path) (other : path ≠ .this) :
    (∀ more inner, Path.ofText? more = some inner → inner.IsRelative →
        Path.ofText? (text ++ "." ++ more) = some (path.compose inner)
          ∧ (path.compose inner).isParent = path.isParent
          ∧ (∀ current top, (path.compose inner).resolve current top =
              (path.resolve current top).bind fun found => inner.resolve found top)
          ∧ ∃ outer, Path.ofText? ("../" ++ more) = some outer
            ∧ ∀ current top, outer.resolve current top = inner.resolve top top)
      ∧ ∀ template : Node, template.BlockFree →
        (template.Everywhere fun inner => ∀ path ∈ inner.path?, path.IsRelative) →
        ∀ context, ∃ node,
          (new.setMaxDepth depth).expandFrom (.tree (.block "with" path [template])) context =
              .ok node
            ∧ (new.setMaxDepth depth).expandFrom (.tree (template.prefixed path)) context =
              .ok node := by
  constructor
  · intro more inner validInner relative
    refine ⟨Path.ofText?_compose valid validInner relative, Path.isParent_compose other inner,
      Path.resolve_compose other relative, _, Path.ofText?_behind_marker validInner relative, ?_⟩
    obtain ⟨segments, rfl⟩ := relative.exists_current
    exact fun current top => rfl
  · intro template free relative context
    obtain ⟨left, levels⟩ := exists_levels positive
    have found : ((new.setMaxDepth depth).expansion context).helper? "with" =
        some Helper.withValue := rfl
    -- a body without blocks has a result whatever its paths lead to, and both sides give it
    obtain ⟨row, runs⟩ : ∃ row, ((new.setMaxDepth depth).expansion context).run left
        (((new.setMaxDepth depth).expansion context).value context path) template = .ok row :=
      Expansion.exists_run_of_blockFree free left _
    refine ⟨Fragment.toRoot row, ?_, ?_⟩
    · rw [expandFrom_tree_eq_run, levels, Expansion.run_block_withValue found,
        Expansion.run_eq_expandWith, Node.expandWith_concat_singleton,
        ← Expansion.run_eq_expandWith, runs]
      rfl
    · rw [expandFrom_tree_eq_run, Expansion.run_prefixed other free relative _ left, runs]
      rfl

/-- The first of some users is shown by a block and by longer paths alike, and so is the absence of
one in an empty context. -/
theorem expandFrom_prefixed_of_first_user :
    let user : Path := .parent ["users", "0"]
    let name : Path := .current ["name"]
    let link : Node :=
      .element "a" (some [("href", .join [.var (.current ["home", "url"]), .group []])])
        [.raw name]
    let longer : Node :=
      .element "a" (some [("href", .join [.var (.parent ["users", "0", "home", "url"]), .group []])])
        [.raw (.parent ["users", "0", "name"])]
    let context : Value := .map
      [("users", .list [.map [("home", .map [("url", .string "/")]), ("name", .string "a")]])]
    let shown : Node :=
      .element "a" (some [("href", .concat [.literal (.string "/"), .space])])
        [.unescaped (.string "a")]
    let expands := fun node context => (new.setMaxDepth 1).expandFrom (.tree node) context
    (0 : UInt64) < 1 ∧ Path.ofText? "../users.0" = some user ∧ user ≠ .this
      ∧ Path.ofText? "name" = some name ∧ name.IsRelative
      ∧ Path.ofText? ("../users.0" ++ "." ++ "name") = some (.parent ["users", "0", "name"])
      ∧ link.BlockFree
      ∧ (link.Everywhere fun inner => ∀ path ∈ inner.path?, path.IsRelative)
      ∧ link.prefixed user = longer
      ∧ expands (.block "with" user [link]) context = .ok shown
      ∧ expands longer context = .ok shown
      ∧ ∃ node, expands (.block "with" user [link]) .none = .ok node
        ∧ expands longer .none = .ok node := by
  intro user name link longer context shown expands
  have positive : (0 : UInt64) < 1 := by decide
  have valid : Path.ofText? "../users.0" = some user := rfl
  have other : user ≠ .this := by decide
  have validName : Path.ofText? "name" = some name := rfl
  have relativeName : name.IsRelative := ⟨rfl, by decide⟩
  have free : link.BlockFree := by simp [Node.BlockFree, link]
  have relative : link.Everywhere fun inner => ∀ path ∈ inner.path?, path.IsRelative := by
    intro inner occurs
    simp only [link, Node.occursIn_element, Node.occursIn_join, Node.occursIn_group,
      Node.occursIn_var, Node.occursIn_raw, Option.getD_some, List.mem_cons, List.not_mem_nil,
      or_false, exists_eq_left, exists_eq_or_imp, false_and, exists_false] at occurs
    obtain rfl | (rfl | rfl | rfl) | rfl := occurs <;>
      simp [Node.path?, Path.IsRelative, Path.isParent, name]
  obtain ⟨composes, bodies⟩ := expandFrom_prefixed positive valid other
  obtain ⟨joined, -⟩ := composes "name" name validName relativeName
  have same : link.prefixed user = longer := rfl
  have block : expands (.block "with" user [link]) context = .ok shown := rfl
  obtain ⟨node, inBlock, prefixed⟩ := bodies link free relative context
  obtain rfl : shown = node := Except.ok.inj (block.symm.trans inBlock)
  exact ⟨positive, valid, other, validName, relativeName, joined, free, relative, same, block,
    prefixed, bodies link free relative .none⟩

end Engine

end TreeTemplate
