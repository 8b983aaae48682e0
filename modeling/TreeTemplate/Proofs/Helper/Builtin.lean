import TreeTemplate.Helper.Builtin
import TreeTemplate.Proofs.Expansion.Normal

/-!
# Blocks of builtin helpers

All builtin helpers do one thing: they render the body in some contexts, one after the other.  What
they return is expanded already, so its second expansion changes nothing, and a block of a builtin
helper gives the rows that its body gives in these contexts (`Expansion.run_block_builtin`).
-/

namespace TreeTemplate

/-- The builtin helpers. -/
inductive Builtin where
  | withValue
  | each
  | ifSet
  | ifUnset
deriving DecidableEq, Repr

namespace Builtin

/-- What a builtin helper does. -/
def helper : Builtin → Helper
  | .withValue => Helper.withValue
  | .each => Helper.each
  | .ifSet => Helper.ifSet
  | .ifUnset => Helper.ifUnset

/-- The contexts in which a builtin helper renders its body, given the value of its argument and the
current context. -/
def contexts (builtin : Builtin) (value current : Value) : List Value :=
  match builtin with
  | .withValue => [value]
  | .each =>
    match value with
    | .list items => items
    | .map entries => entries.map Prod.snd
    | _ => []
  | .ifSet => if value.isTruthy then [current] else []
  | .ifUnset => if value.isTruthy then [] else [current]

end Builtin

/-- A helper is one of the builtin ones. -/
def Helper.IsBuiltin (helper : Helper) : Prop :=
  ∃ builtin : Builtin, helper = builtin.helper

/-- All helpers of an engine are builtin ones, under any names. -/
def Engine.OnlyBuiltins (engine : Engine) : Prop :=
  ∀ name helper, engine.helpers.lookup name = some helper → helper.IsBuiltin

/-- An engine has builtin helpers only if each of its entries is one. -/
lemma Engine.onlyBuiltins_of_forall {engine : Engine}
    (h : ∀ entry ∈ engine.helpers, entry.2.IsBuiltin) : engine.OnlyBuiltins := by
  intro name helper found
  exact h (name, helper) (mem_of_lookup_eq_some found)

/-- An engine starts with the builtin helpers only. -/
lemma Engine.new_onlyBuiltins : Engine.new.OnlyBuiltins := by
  apply onlyBuiltins_of_forall
  have helpers : Engine.new.helpers =
      [("each", Helper.each), ("else", Helper.ifUnset), ("if", Helper.ifSet),
        ("unless", Helper.ifUnset), ("with", Helper.withValue)] := rfl
  rw [helpers]
  simp only [List.forall_mem_cons]
  exact ⟨⟨.each, rfl⟩, ⟨.ifUnset, rfl⟩, ⟨.ifSet, rfl⟩, ⟨.ifUnset, rfl⟩, ⟨.withValue, rfl⟩, nofun⟩

namespace Expansion

/-- All helpers that an expansion can call are builtin ones. -/
def OnlyBuiltins (expansion : Expansion) : Prop :=
  ∀ name helper, expansion.helper? name = some helper → helper.IsBuiltin

variable {expansion : Expansion}

/-- A row of settled nodes runs to these nodes, at any depth and with any value. -/
lemma run_concat_settled {nodes : List Node} (settled : ∀ node ∈ nodes, node.Settled) (left : Nat)
    (current : Value) : expansion.run left current (.concat nodes) = .ok nodes := by
  rw [run_eq_expandWith]
  exact Node.expandWith_row settled

/-- Rows of settled nodes in a row expand to the nodes. -/
lemma run_concat_rows {rows : List Fragment}
    (settled : ∀ row ∈ rows, ∀ node ∈ row, node.Settled) (left : Nat) (current : Value) :
    expansion.run left current (.concat (rows.map .concat)) = .ok rows.flatten := by
  have each : (rows.map Node.concat).mapM (expansion.run left current) = .ok rows := by
    refine mapM_eq_ok_iff.2 (List.forall₂_map_left_iff.2 (List.forall₂_same.2 fun row among => ?_))
    exact run_concat_settled (settled row among) left current
  rw [run_concat, each]
  rfl

/-- To render a body in a context and to expand the result is to expand the body there. -/
lemma run_rendered (left : Nat) (context current : Value) (body : List Node) :
    (Node.concat <$> expansion.run left context (.concat body) >>= expansion.run left current) =
      expansion.run left context (.concat body) := by
  cases runs : expansion.run left context (.concat body) with
  | error e => rfl
  | ok nodes => exact run_concat_settled (expansion.run_settled runs) left current

/-- To render a body in several contexts and to expand the results is to expand the body in each. -/
lemma run_renderEach (left : Nat) (contexts : List Value) (current : Value) (body : List Node) :
    (Node.concat <$> (contexts.mapM fun context =>
        Node.concat <$> expansion.run left context (.concat body)) >>=
      expansion.run left current) =
      List.flatten <$> contexts.mapM fun context => expansion.run left context (.concat body) := by
  rw [mapM_map_result]
  cases runs : contexts.mapM fun context => expansion.run left context (.concat body) with
  | error e => rfl
  | ok rows =>
    -- the helper returns nodes that are expanded already, and these are expanded once more
    have settled := forall_of_mapM runs fun context _ row => expansion.run_settled
    exact run_concat_rows settled left current

/-- A block of `with` is its body in the context of the argument. -/
lemma run_block_withValue {helper : String}
    (found : expansion.helper? helper = some Helper.withValue) (left : Nat) (current : Value)
    (arg : Path) (body : List Node) :
    expansion.run (left + 1) current (.block helper arg body) =
      within (.block helper arg)
        (expansion.run left (expansion.value current arg) (.concat body)) := by
  rw [run_block_succ, found]
  exact congrArg (within _) (run_rendered left _ current body)

/-- A block of `if` is its body if the argument is set, and else nothing. -/
lemma run_block_ifSet {helper : String} (found : expansion.helper? helper = some Helper.ifSet)
    (left : Nat) (current : Value) (arg : Path) (body : List Node) :
    expansion.run (left + 1) current (.block helper arg body) =
      if (expansion.value current arg).isTruthy then
        within (.block helper arg) (expansion.run left current (.concat body))
      else .ok [] := by
  rw [run_block_succ, found]
  dsimp only [Helper.ifSet]
  split
  · exact congrArg (within _) (run_rendered left current current body)
  · exact congrArg (within _) (run_concat_settled (List.forall_mem_nil _) left current)

/-- A block of `unless` is its body if the argument is not set, and else nothing. -/
lemma run_block_ifUnset {helper : String} (found : expansion.helper? helper = some Helper.ifUnset)
    (left : Nat) (current : Value) (arg : Path) (body : List Node) :
    expansion.run (left + 1) current (.block helper arg body) =
      if (expansion.value current arg).isTruthy then .ok []
      else within (.block helper arg) (expansion.run left current (.concat body)) := by
  rw [run_block_succ, found]
  dsimp only [Helper.ifUnset]
  split
  · exact congrArg (within _) (run_concat_settled (List.forall_mem_nil _) left current)
  · exact congrArg (within _) (run_rendered left current current body)

/-- A block of a builtin helper gives the rows of its body in the contexts of the helper. -/
lemma run_block_builtin {helper : String} {builtin : Builtin}
    (found : expansion.helper? helper = some builtin.helper) (left : Nat) (current : Value)
    (arg : Path) (body : List Node) :
    expansion.run (left + 1) current (.block helper arg body) =
      within (.block helper arg) (List.flatten <$>
        (builtin.contexts (expansion.value current arg) current).mapM fun context =>
          expansion.run left context (.concat body)) := by
  cases builtin with
  | withValue => rw [run_block_withValue found, Builtin.contexts, flatten_mapM_singleton]
  | each =>
    rw [run_block_succ, found]
    refine congrArg (within _) ?_
    cases value : expansion.value current arg with
    | list items => exact run_renderEach left items current body
    | map entries =>
      rw [Builtin.contexts, ← run_renderEach left _ current body, List.mapM_map]
      rfl
    | none | bool _ | integer _ | float _ | string _ =>
      exact run_concat_settled (List.forall_mem_nil _) left current
  | ifSet =>
    rw [run_block_ifSet found, Builtin.contexts]
    split
    · rw [flatten_mapM_singleton]
    · rfl
  | ifUnset =>
    rw [run_block_ifUnset found, Builtin.contexts]
    split
    · rfl
    · rw [flatten_mapM_singleton]

/-- A block whose helper is not there fails with its name, as long as a level is left. -/
lemma run_block_unknown {helper : String} (missing : expansion.helper? helper = none) (left : Nat)
    (current : Value) (arg : Path) (body : List Node) :
    expansion.run (left + 1) current (.block helper arg body) =
      within (.block helper arg) (fail (.helperNotFound helper)) := by
  rw [run_block_succ, missing]

end Expansion

end TreeTemplate
