import TreeTemplate.Proofs.Expansion.Limit

/-!
# Complementary blocks

Of two blocks with the same argument and the same body, one for `if` and one for `unless`, exactly
one renders the body, because a value is set or not set and nothing else.  The other one is nothing.
So the pair is the body in its place, with one block more around it (`Expansion.run_ifSet_ifUnset`).
To have the same row as the body alone it needs one block more that may be nested, and an expansion
of the body under the lower limit differs in nothing but the number that it names if the limit was
reached (`Engine.run_setMaxDepth`).
-/

namespace TreeTemplate

/-- A block of `if` and one of `unless` with the same argument and body are together the body, in the
block that the argument asks for. -/
theorem Expansion.run_ifSet_ifUnset {expansion : Expansion} {set unset : String}
    (foundSet : expansion.helper? set = some Helper.ifSet)
    (foundUnset : expansion.helper? unset = some Helper.ifUnset) (left : Nat) (current : Value)
    (arg : Path) (body : List Node) :
    expansion.run (left + 1) current (.concat [.block set arg body, .block unset arg body]) =
      within (.block (if (expansion.value current arg).isTruthy then set else unset) arg)
        (expansion.run left current (.concat body)) := by
  rw [run_concat, List.mapM_cons, List.mapM_cons, List.mapM_nil, run_block_ifSet foundSet,
    run_block_ifUnset foundUnset]
  -- one of the two rows is that of the body, and the other one is empty
  cases (expansion.value current arg).isTruthy with
  | true => cases expansion.run left current (.concat body) <;> simp
  | false => cases expansion.run left current (.concat body) <;> simp

namespace Engine

/-- A pair of complementary blocks is expanded as its body is under a limit that is lower by one,
with the block that renders it around an error. -/
lemma expandFrom_pair {low high : UInt64} (deeper : high.toNat = low.toNat + 1) {unset : String}
    (other : unset = "unless" ∨ unset = "else") (arg : Path) (body : List Node) (context : Value) :
    let pair : Node := .concat [.block "if" arg body, .block unset arg body]
    let value := (arg.resolve context context).getD .none
    (new.setMaxDepth high).expandFrom (.tree pair) context =
      within (.block (if value.isTruthy then "if" else unset) arg)
        (((new.setMaxDepth low).expandFrom (.tree (.concat body)) context).mapError
          (Error.withLimit high)) := by
  intro pair value
  have foundSet : ((new.setMaxDepth high).expansion context).helper? "if" = some Helper.ifSet := rfl
  have foundUnset :
      ((new.setMaxDepth high).expansion context).helper? unset = some Helper.ifUnset := by
    obtain rfl | rfl := other
    · rfl
    · rfl
  have levels : (new.setMaxDepth high).maxDepth.toNat = low.toNat + 1 := deeper
  rw [expandFrom_tree_eq_run, expandFrom_tree_eq_run, levels,
    Expansion.run_ifSet_ifUnset foundSet foundUnset, run_setMaxDepth new_onlyBuiltins low high,
    mapError_map]
  exact (mapError_map _ _ _).symm

/-- A block of `if` and one of `unless` or `else` with the same argument and body partition all
values.  The pair of them succeeds exactly if the body does under a limit that is lower by one, and
it gives the same tree.  If the body fails, the pair fails with an error of the same kind, and its
trail leads through the block that renders the body and on as that of the body does. -/
theorem expandFrom_ifSet_ifUnset {low high : UInt64} (deeper : high.toNat = low.toNat + 1)
    {unset : String} (other : unset = "unless" ∨ unset = "else") (arg : Path) (body : List Node)
    (context : Value) :
    let pair : Node := .concat [.block "if" arg body, .block unset arg body]
    let value := (arg.resolve context context).getD .none
    let rendering := if value.isTruthy then "if" else unset
    (∀ node, (new.setMaxDepth high).expandFrom (.tree pair) context = .ok node ↔
        (new.setMaxDepth low).expandFrom (.tree (.concat body)) context = .ok node)
      ∧ ∀ error, (new.setMaxDepth low).expandFrom (.tree (.concat body)) context = .error error →
        ∃ located, (new.setMaxDepth high).expandFrom (.tree pair) context = .error located
          ∧ located.kind = error.kind ∧ located.trail = .block rendering arg :: error.trail := by
  intro pair value rendering
  have same := expandFrom_pair deeper other arg body context
  constructor
  · intro node
    rw [same, within_eq_ok_iff, mapError_eq_ok_iff]
  · intro error fails
    rw [fails] at same
    exact ⟨_, same, Cause.kind_withLimit high error.cause, rfl⟩

/-- An empty name is not set, so the second block of a pair renders the body: to its tree if a block
may be in it, and else with the error of that block. -/
theorem expandFrom_ifSet_ifUnset_of_empty_name :
    let arg : Path := .parent ["name"]
    let body : List Node := [.element "p" none [.block "each" (.current ["items"]) [.var .this]]]
    let pair : Node := .concat [.block "if" arg body, .block "else" arg body]
    let context : Value := .map [("items", .list [.integer 1, .integer 2]), ("name", .string "")]
    let node : Node := .element "p" none [.literal (.integer 1), .literal (.integer 2)]
    (2 : UInt64).toNat = (1 : UInt64).toNat + 1 ∧ ("else" = "unless" ∨ "else" = "else")
      ∧ (new.setMaxDepth 1).expandFrom (.tree (.concat body)) context = .ok node
      ∧ (new.setMaxDepth 2).expandFrom (.tree pair) context = .ok node
      ∧ (1 : UInt64).toNat = (0 : UInt64).toNat + 1
      ∧ (new.setMaxDepth 0).expandFrom (.tree (.concat body)) context =
        .error ⟨.maxDepth 0, [.element "p", .block "each" (.current ["items"])], none⟩
      ∧ ∃ located, (new.setMaxDepth 1).expandFrom (.tree pair) context = .error located
        ∧ located.kind = .maxDepth
        ∧ located.trail = [.block "else" arg, .element "p", .block "each" (.current ["items"])] := by
  intro arg body pair context node
  have other : "else" = "unless" ∨ "else" = "else" := .inr rfl
  have succeeds : (new.setMaxDepth 1).expandFrom (.tree (.concat body)) context = .ok node := rfl
  have fails : (new.setMaxDepth 0).expandFrom (.tree (.concat body)) context =
      .error ⟨.maxDepth 0, [.element "p", .block "each" (.current ["items"])], none⟩ := rfl
  have two : (2 : UInt64).toNat = (1 : UInt64).toNat + 1 := rfl
  have one : (1 : UInt64).toNat = (0 : UInt64).toNat + 1 := rfl
  obtain ⟨results, -⟩ := expandFrom_ifSet_ifUnset two other arg body context
  obtain ⟨-, errors⟩ := expandFrom_ifSet_ifUnset one other arg body context
  exact ⟨two, other, succeeds, (results node).2 succeeds, one, fails, errors _ fails⟩

end Engine

end TreeTemplate
