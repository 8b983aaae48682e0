import TreeTemplate.Proofs.Expansion.Limit
import TreeTemplate.Proofs.Expansion.Outline
import TreeTemplate.Proofs.Node.Inlined

/-!
# Helpers that stand for a tree

A helper that always returns the same tree is a name for this tree: its block is expanded as the tree
is at the place of the block, in the context that is current there (`Expansion.run_block_constant`).
So its blocks may be replaced by the tree beforehand (`Expansion.run_inlined`).  The tree is then
expanded with one more block that may be nested, and so are the bodies of blocks in it.  Where all
other helpers are builtin ones this changes nothing but that the limit is reached later
(`Expansion.run_succ_sameUnless`).
-/

namespace TreeTemplate

/-- All helpers are builtin ones, but for one that always returns the same tree. -/
structure BuiltinsBeside (name : String) (tree : Node) (helper? : String → Option Helper) :
    Prop where
  constant : helper? name = some (Helper.constant (.ok tree))
  builtin : ∀ other helper, other ≠ name → helper? other = some helper → helper.IsBuiltin

/-- A name leads to the tree, to nothing, or to a builtin helper. -/
lemma BuiltinsBeside.cases {name : String} {tree : Node} {helper? : String → Option Helper}
    (beside : BuiltinsBeside name tree helper?) (helper : String) :
    helper = name ∨ (helper ≠ name ∧ helper? helper = none)
      ∨ (helper ≠ name ∧ ∃ builtin : Builtin, helper? helper = some builtin.helper) := by
  by_cases named : helper = name
  · exact .inl named
  · cases found : helper? helper with
    | none => exact .inr (.inl ⟨named, rfl⟩)
    | some call =>
      obtain ⟨builtin, rfl⟩ := beside.builtin helper call named found
      exact .inr (.inr ⟨named, builtin, rfl⟩)

/-- A builtin helper replaced, or a helper added to the builtin ones. -/
lemma Engine.OnlyBuiltins.addHelper {engine : Engine} (builtin : engine.OnlyBuiltins)
    (name : String) (tree : Node) :
    BuiltinsBeside name tree fun helper =>
      (engine.addHelper name (Helper.constant (.ok tree))).helpers.lookup helper where
  constant := by rw [lookup_helpers_addHelper, if_pos rfl]
  builtin := by
    intro other helper different found
    rw [lookup_helpers_addHelper, if_neg different] at found
    exact builtin other helper found

namespace Expansion

variable {expansion : Expansion} {name : String} {tree : Node}

/-- A block whose helper always returns a tree is expanded as the tree is in its place. -/
lemma run_block_constant (found : expansion.helper? name = some (Helper.constant (.ok tree)))
    (left : Nat) (current : Value) (arg : Path) (body : List Node) :
    expansion.run (left + 1) current (.block name arg body) =
      within (.block name arg) (expansion.run left current tree) := by
  rw [run_block_succ, found]
  rfl

/-- Two blocks of a builtin helper with the same argument end in the same way, unless the first is
stopped, if their bodies do in every context. -/
lemma run_block_sameUnless {stops : Error → Prop}
    (around : ∀ label error, stops error → stops (error.within label)) {helper : String}
    {builtin : Builtin} (found : expansion.helper? helper = some builtin.helper) {left other : Nat}
    {body replaced : List Node}
    (rows : ∀ context, SameUnless stops (expansion.run left context (.concat body))
      (expansion.run other context (.concat replaced))) (current : Value) (arg : Path) :
    SameUnless stops (expansion.run (left + 1) current (.block helper arg body))
      (expansion.run (other + 1) current (.block helper arg replaced)) := by
  rw [run_block_builtin found, run_block_builtin found]
  exact SameUnless.mapError (SameUnless.map _ (.mapM fun context _ => rows context)) (around _)

/-- With one more block that may be nested a run ends in the same way, unless it reached the limit. -/
lemma run_succ_sameUnless (beside : BuiltinsBeside name tree expansion.helper?) (left : Nat)
    (current : Value) (node : Node) :
    SameUnless Error.OfLimit (expansion.run left current node)
      (expansion.run (left + 1) current node) := by
  have around : ∀ label error, Error.OfLimit error → Error.OfLimit (error.within label) :=
    fun label error reached => reached
  induction left generalizing current node with
  | zero =>
    rw [run_eq_expandWith, run_eq_expandWith expansion 1]
    refine Node.expandWith_sameUnless _ around fun helper arg body _ => ?_
    exact .stopped _ rfl
  | succ left ih =>
    rw [run_eq_expandWith, run_eq_expandWith expansion (left + 1 + 1)]
    refine Node.expandWith_sameUnless _ around fun helper arg body _ => ?_
    obtain rfl | ⟨-, missing⟩ | ⟨-, builtin, found⟩ := beside.cases helper
    · rw [run_block_constant beside.constant, run_block_constant beside.constant]
      exact (ih current tree).mapError (around _)
    · rw [run_block_unknown missing, run_block_unknown missing]
      exact .same _
    · exact run_block_sameUnless around found (fun context => ih context (.concat body)) current arg

/-- With the blocks of the one helper replaced by its tree a run ends in the same way, if it has a
result. -/
theorem run_inlined (beside : BuiltinsBeside name tree expansion.helper?) (left : Nat)
    (current : Value) (node : Node) :
    SameUnless (fun _ => True) (expansion.run left current node)
      (expansion.run left current (Node.inlined name tree node)) := by
  have around : ∀ (label : Label) (error : Error),
      (fun _ => True) error → (fun _ => True) (error.within label) := fun _ _ => id
  induction left generalizing current node with
  | zero =>
    rw [run_eq_expandWith, Node.expandWith_inlined]
    refine Node.expandWith_sameUnless _ around fun helper arg body _ => ?_
    exact .stopped _ trivial
  | succ left ih =>
    rw [run_eq_expandWith, Node.expandWith_inlined]
    refine Node.expandWith_sameUnless _ around fun helper arg body _ => ?_
    rw [← run_eq_expandWith]
    obtain rfl | ⟨named, missing⟩ | ⟨named, builtin, found⟩ := beside.cases helper
    · -- the tree itself has one more block that may be nested in it than in the block
      rw [run_block_constant beside.constant, Node.inlined_block_self]
      cases runs : expansion.run left current tree with
      | error error => exact .stopped _ trivial
      | ok row =>
        rw [(run_succ_sameUnless beside left current tree).eq_ok runs]
        exact .same _
    · rw [run_block_unknown missing]
      exact .stopped _ trivial
    · rw [Node.inlined_block_other named]
      refine run_block_sameUnless around found (fun context => ?_) current arg
      rw [← Node.inlined_concat]
      exact ih context (.concat body)

/-- A block for a tree without blocks gives the members of the tree, with the values of its paths at the
block. -/
lemma run_block_constant_of_blockFree
    (found : expansion.helper? name = some (Helper.constant (.ok tree))) (free : tree.BlockFree)
    (left : Nat) (current : Value) (arg : Path) (body : List Node) :
    expansion.run (left + 1) current (.block name arg body) =
      .ok (tree.filled (fun path => .literal (expansion.value current path))
        (fun path => .unescaped (expansion.value current path))).flattened := by
  rw [run_block_constant found, run_eq_expandWith, Node.expandWith_blockFree free]
  rfl

end Expansion

namespace Engine

/-- A helper that always returns the same tree stands for the tree, where all others are builtin ones.
A template with its blocks replaced by the tree expands to the same tree as the template does, if that
has a result, and it does not call the helper if the tree does not.  A block of the helper is expanded
as the tree is at its place: if there are no more blocks in it, its paths have the values that they
lead to from the context that is current at the block, and from the top-level context. -/
theorem expandFrom_inlined {engine : Engine} {name : String} {tree : Node}
    (beside : BuiltinsBeside name tree fun helper => engine.helpers.lookup helper)
    (template : Node) (context : Value) :
    (∀ node, engine.expandFrom (.tree template) context = .ok node →
        engine.expandFrom (.tree (Node.inlined name tree template)) context = .ok node)
      ∧ (¬ tree.Calls name → ¬ (Node.inlined name tree template).Calls name)
      ∧ ∀ left current arg body,
        let block := (engine.expansion context).run (left + 1) current (.block name arg body)
        let value := fun path : Path => (path.resolve current context).getD .none
        block = within (.block name arg) ((engine.expansion context).run left current tree)
          ∧ (tree.BlockFree → block = .ok (tree.filled (fun path => .literal (value path))
            (fun path => .unescaped (value path))).flattened) := by
  have besideRun : BuiltinsBeside name tree (engine.expansion context).helper? := beside
  refine ⟨?_, fun uncalled => Node.not_calls_inlined uncalled template, ?_⟩
  · intro node succeeds
    rw [expandFrom_tree_eq_run] at succeeds ⊢
    exact ((Expansion.run_inlined besideRun _ context template).map _).eq_ok succeeds
  · intro left current arg body block value
    exact ⟨Expansion.run_block_constant besideRun.constant left current arg body, fun free =>
      Expansion.run_block_constant_of_blockFree besideRun.constant free left current arg body⟩

/-- A card with a block in it is the same in the title of a list and for each user, whether its blocks
are expanded or replaced by it.  Its own paths lead from the user at one place, and from the top-level
context at the other, and the site is always that of the top-level context. -/
theorem expandFrom_inlined_of_cards :
    let card : Node := .concat
      [.var (.current ["name"]), .raw (.parent ["site"]),
        .block "if" (.current ["admin"]) [.literal (.string "!")]]
    let engine := (new.setMaxDepth 3).addHelper "card" (Helper.constant (.ok card))
    let template : Node :=
      .element "ul" (some [("title", .block "card" .this [])])
        [.block "each" (.current ["users"]) [.block "card" (.current ["missing"]) [.var .this]]]
    let replaced : Node :=
      .element "ul" (some [("title", card)]) [.block "each" (.current ["users"]) [card]]
    let context : Value := .map
      [("name", .string "n"), ("site", .string "s"),
        ("users", .list [.map [("admin", .bool true), ("name", .string "a")]])]
    let node : Node :=
      .element "ul"
        (some [("title", .concat [.literal (.string "n"), .unescaped (.string "s")])])
        [.literal (.string "a"), .unescaped (.string "s"), .literal (.string "!")]
    BuiltinsBeside "card" card (fun helper => engine.helpers.lookup helper)
      ∧ Node.inlined "card" card template = replaced
      ∧ engine.expandFrom (.tree template) context = .ok node
      ∧ engine.expandFrom (.tree replaced) context = .ok node := by
  intro card engine template replaced context node
  have builtin : (new.setMaxDepth 3).OnlyBuiltins := new_onlyBuiltins
  have beside := builtin.addHelper "card" card
  have inlined : Node.inlined "card" card template = replaced := rfl
  have succeeds : engine.expandFrom (.tree template) context = .ok node := rfl
  obtain ⟨result, -, -⟩ := expandFrom_inlined beside template context
  rw [inlined] at result
  exact ⟨beside, inlined, succeeds, result node succeeds⟩

end Engine

end TreeTemplate
