import TreeTemplate.Helper.Stock
import TreeTemplate.Proofs.Expansion.Calls

/-!
# Bodies returned and bodies rendered

A helper may return the body of its block as it is, or render it in the current context and return
the rendering.  In the first case the body is expanded in place of the block, and in the second it is
expanded by the helper, and what it gives is expanded once more.  Both expand the body in the same
context and with the same number of blocks that may be nested in it, the second expansion changes
nothing, and an error gets the place of the block around it once.  So the blocks of the one helper
are those of the other, and with the blocks whole runs agree (`Expansion.run_returned`), for all
other helpers are handed bodies that render alike.
-/

namespace TreeTemplate

/-- Renders the body in the current context. -/
def Helper.renderHere : Helper := fun _ body =>
  body.render body.context

namespace Expansion

variable {expansion : Expansion} {other? : String → Option Helper} {name : String}

/-- A block whose helper returns its body is expanded as its body is in its place. -/
lemma run_block_nodes (found : expansion.helper? name = some Helper.nodes) (left : Nat)
    (current : Value) (arg : Path) (body : List Node) :
    expansion.run (left + 1) current (.block name arg body) =
      within (.block name arg) (expansion.run left current (.concat body)) := by
  rw [run_block_succ, found]
  rfl

/-- A block whose helper renders its body in the current context is expanded as its body is in its
place. -/
lemma run_block_renderHere (found : expansion.helper? name = some Helper.renderHere) (left : Nat)
    (current : Value) (arg : Path) (body : List Node) :
    expansion.run (left + 1) current (.block name arg body) =
      within (.block name arg) (expansion.run left current (.concat body)) := by
  rw [run_block_succ, found]
  exact congrArg (within _) (run_rendered left current current body)

/-- Where the helpers are the same but for one, which returns its body in one expansion and renders
it in the other, runs agree. -/
theorem run_returned (returned : expansion.helper? name = some Helper.nodes)
    (rendered : other? name = some Helper.renderHere)
    (same : ∀ helper, helper ≠ name → other? helper = expansion.helper? helper) (left : Nat)
    (current : Value) (node : Node) :
    expansion.run left current node = (expansion.withHelpers other?).run left current node := by
  induction left generalizing current node with
  | zero => rfl
  | succ left ih =>
    rw [run_eq_expandWith, run_eq_expandWith (expansion.withHelpers other?)]
    refine Node.expandWith_congr _ fun helper arg body _ => ?_
    by_cases named : helper = name
    · subst named
      have foundOther : (expansion.withHelpers other?).helper? helper = some Helper.renderHere :=
        rendered
      rw [run_block_nodes returned, run_block_renderHere foundOther, ih]
    · have foundOther : (expansion.withHelpers other?).helper? helper = expansion.helper? helper :=
        same helper named
      -- any other helper is the same on both sides, and so is all that it can ask of its body
      have renders : (fun context => Node.concat <$> expansion.run left context (.concat body)) =
          fun context =>
            Node.concat <$> (expansion.withHelpers other?).run left context (.concat body) := by
        funext context
        rw [ih]
      have results : expansion.run left current =
          (expansion.withHelpers other?).run left current := funext (ih current)
      rw [run_block_succ, run_block_succ, foundOther, renders, results]
      rfl

end Expansion

namespace Engine

/-- A helper that returns its body unexpanded and one that renders it in the current context do the
same under any name, whatever the other helpers are: every node at every place is expanded to the
same fragment or fails with the same error, and so does every template. -/
theorem expandFrom_returned_eq_rendered (engine : Engine) (name : String) :
    (∀ (top : Value) (left : Nat) (current : Value) (node : Node),
      ((engine.addHelper name Helper.nodes).expansion top).run left current node =
        ((engine.addHelper name Helper.renderHere).expansion top).run left current node)
      ∧ ∀ (source : Source) (context : Value),
        (engine.addHelper name Helper.nodes).expandFrom source context =
          (engine.addHelper name Helper.renderHere).expandFrom source context := by
  have runs : ∀ (top : Value) (left : Nat) (current : Value) (node : Node),
      ((engine.addHelper name Helper.nodes).expansion top).run left current node =
        ((engine.addHelper name Helper.renderHere).expansion top).run left current node := by
    intro top
    apply Expansion.run_returned
    · show (engine.addHelper name Helper.nodes).helpers.lookup name = some Helper.nodes
      rw [lookup_helpers_addHelper, if_pos rfl]
    · show (engine.addHelper name Helper.renderHere).helpers.lookup name = some Helper.renderHere
      rw [lookup_helpers_addHelper, if_pos rfl]
    · intro helper other
      show (engine.addHelper name Helper.renderHere).helpers.lookup helper =
        (engine.addHelper name Helper.nodes).helpers.lookup helper
      rw [lookup_helpers_addHelper, lookup_helpers_addHelper, if_neg other, if_neg other]
  refine ⟨runs, fun source context => ?_⟩
  have expands : ∀ root, ((engine.addHelper name Helper.nodes).expansion context).expand root =
      ((engine.addHelper name Helper.renderHere).expansion context).expand root := by
    intro root
    exact congrArg (Fragment.toRoot <$> ·) (runs context engine.maxDepth.toNat context root)
  have found : (engine.addHelper name Helper.nodes).find source =
      (engine.addHelper name Helper.renderHere).find source := by
    cases source <;> rfl
  unfold expandFrom apply
  simp only [found, expands]

end Engine

end TreeTemplate
