import TreeTemplate.Proofs.Engine
import TreeTemplate.Proofs.Helper.Builtin

/-!
# A template depends on the helpers that it calls

Two sets of helpers that agree on the names of the blocks in a tree expand it in the same way, if
these names stand for builtin helpers or for nothing.  A builtin helper has no other effect than to
render the body of its block, and what it returns has no block left in it, so no other names are
looked up.  By induction on the blocks that may still be nested the bodies are rendered in the same
way with both (`Expansion.run_eq_of_calls`).
-/

namespace TreeTemplate

namespace Node

/-- A block with a helper of this name is in a tree. -/
def Calls (node : Node) (name : String) : Prop :=
  ∃ arg body, (block name arg body).OccursIn node

/-- What is called in the body of a block is called in a tree with the block. -/
lemma Calls.of_body {node : Node} {helper name : String} {arg : Path} {body : List Node}
    (calls : (concat body).Calls name) (occurs : (block helper arg body).OccursIn node) :
    node.Calls name := by
  obtain ⟨inner, more, inBody⟩ := calls
  cases inBody with
  | @part _ part member inside =>
    have among : part ∈ (block helper arg body).parts := member
    exact ⟨inner, more, (OccursIn.part among inside).trans occurs⟩

end Node

/-- Both are the same builtin helper, or both are missing. -/
def SameBuiltin (helper? other? : Option Helper) : Prop :=
  ∃ builtin? : Option Builtin,
    helper? = builtin?.map Builtin.helper ∧ other? = builtin?.map Builtin.helper

namespace Expansion

/-- The same expansion with other helpers. -/
def withHelpers (expansion : Expansion) (helper? : String → Option Helper) : Expansion :=
  { expansion with helper? }

variable {expansion : Expansion} {other? : String → Option Helper}

/-- A block with the same builtin helper on both sides is expanded in the same way, if its body is
in every context. -/
lemma run_block_eq {left : Nat} {current : Value} {helper : String} {arg : Path} {body : List Node}
    (same : SameBuiltin (expansion.helper? helper) (other? helper))
    (rows : ∀ context, expansion.run left context (.concat body) =
      (expansion.withHelpers other?).run left context (.concat body)) :
    expansion.run (left + 1) current (.block helper arg body) =
      (expansion.withHelpers other?).run (left + 1) current (.block helper arg body) := by
  have foundOther : (expansion.withHelpers other?).helper? helper = other? helper := rfl
  obtain ⟨builtin?, here, there⟩ := same
  rw [there] at foundOther
  cases builtin? with
  | none => rw [run_block_unknown here, run_block_unknown foundOther]
  | some builtin =>
    rw [run_block_builtin here, run_block_builtin foundOther,
      mapM_congr fun context _ => rows context]
    rfl

/-- A run depends on the helpers only that are called in the tree. -/
theorem run_eq_of_calls {left : Nat} {current : Value} {node : Node}
    (same : ∀ name, node.Calls name → SameBuiltin (expansion.helper? name) (other? name)) :
    expansion.run left current node = (expansion.withHelpers other?).run left current node := by
  induction left generalizing current node with
  | zero => rfl
  | succ left ih =>
    rw [run_eq_expandWith, run_eq_expandWith (expansion.withHelpers other?)]
    refine Node.expandWith_congr _ fun helper arg body occurs => ?_
    refine run_block_eq (same helper ⟨arg, body, occurs⟩) fun context => ?_
    exact ih fun name calls => same name (calls.of_body occurs)

end Expansion

namespace Engine

variable {engine other : Engine} {template : Node}

/-- Engines of one depth whose helpers are the same builtins under the names that a template calls
expand it in the same way. -/
lemma expandFrom_eq_of_sameBuiltin (depth : engine.maxDepth = other.maxDepth)
    (same : ∀ name, template.Calls name →
      SameBuiltin (engine.helpers.lookup name) (other.helpers.lookup name)) (context : Value) :
    engine.expandFrom (.tree template) context = other.expandFrom (.tree template) context := by
  have expansions : other.expansion context =
      (engine.expansion context).withHelpers fun name => other.helpers.lookup name := by
    unfold expansion
    rw [← depth]
    rfl
  have sameRun : ∀ name, template.Calls name →
      SameBuiltin ((engine.expansion context).helper? name) (other.helpers.lookup name) := same
  rw [expandFrom_tree, expandFrom_tree, expansions, Expansion.expand, Expansion.expand,
    Expansion.run_eq_of_calls sameRun]
  rfl

/-- A helper under a name that is not called is not found. -/
lemma lookup_addHelper {name added : String} (calls : template.Calls name)
    (uncalled : ¬ template.Calls added) (helper : Helper) :
    (engine.addHelper added helper).helpers.lookup name = engine.helpers.lookup name := by
  have other : name ≠ added := by
    rintro rfl
    exact uncalled calls
  rw [lookup_helpers_addHelper, if_neg other]

/-- What a tree expands to depends on the limit and on the helpers only that are called in it, if
these are builtin ones or missing.  So a helper under another name, be it new or in place of an
earlier one, and a template under any name change nothing. -/
theorem expandFrom_eq_of_calls (depth : engine.maxDepth = other.maxDepth)
    (same : ∀ name, template.Calls name →
      SameBuiltin (engine.helpers.lookup name) (other.helpers.lookup name)) (context : Value) :
    engine.expandFrom (.tree template) context = other.expandFrom (.tree template) context
      ∧ (∀ name helper, ¬ template.Calls name →
        (engine.addHelper name helper).expandFrom (.tree template) context =
          engine.expandFrom (.tree template) context)
      ∧ ∀ name added grown, engine.addTemplate name added = .ok grown →
        grown.expandFrom (.tree template) context =
          engine.expandFrom (.tree template) context := by
  refine ⟨expandFrom_eq_of_sameBuiltin depth same context, ?_, ?_⟩
  · intro name helper uncalled
    have depth : (engine.addHelper name helper).maxDepth = engine.maxDepth := rfl
    refine expandFrom_eq_of_sameBuiltin depth (fun called calls => ?_) context
    obtain ⟨builtin?, here, -⟩ := same called calls
    exact ⟨builtin?, (lookup_addHelper calls uncalled helper).trans here, here⟩
  · intro name added grown adds
    unfold addTemplate at adds
    split at adds
    · cases adds
    · cases adds
      rfl

/-- A template that calls one builtin helper and a missing one fails in the same way in an engine
that has the one only, and another meaning for what is not called. -/
theorem expandFrom_eq_of_calls_with :
    let other := (Engine.empty.addHelper "with" Helper.withValue).addHelper "each" Helper.decode
    let template : Node :=
      .element "p" (some [("title", .block "with" (.current ["user"]) [.var (.current ["name"])])])
        [.block "with" .this [.block "shout" .this []]]
    let context : Value := .map [("user", .map [("name", .string "a")])]
    let error : Error :=
      ⟨.helperNotFound "shout", [.element "p", .block "with" .this, .block "shout" .this], none⟩
    Engine.new.maxDepth = other.maxDepth
      ∧ (∀ name, template.Calls name →
        SameBuiltin (Engine.new.helpers.lookup name) (other.helpers.lookup name))
      ∧ ¬ template.Calls "unless"
      ∧ Engine.new.expandFrom (.tree template) context = .error error
      ∧ other.expandFrom (.tree template) context = .error error
      ∧ (Engine.new.addHelper "unless" Helper.attempt).expandFrom (.tree template) context =
        .error error := by
  intro other template context error
  have calls : ∀ name, template.Calls name → name = "with" ∨ name = "shout" := by
    rintro name ⟨arg, body, occurs⟩
    grind [cases Node.OccursIn, Node.parts]
  have same : ∀ name, template.Calls name →
      SameBuiltin (Engine.new.helpers.lookup name) (other.helpers.lookup name) := by
    intro name called
    obtain rfl | rfl := calls name called
    · exact ⟨some .withValue, rfl, rfl⟩
    · exact ⟨none, rfl, rfl⟩
  have uncalled : ¬ template.Calls "unless" := by
    intro called
    have named := calls "unless" called
    revert named
    decide
  have fails : Engine.new.expandFrom (.tree template) context = .error error := rfl
  have depth : Engine.new.maxDepth = other.maxDepth := rfl
  obtain ⟨equal, helpers, -⟩ := expandFrom_eq_of_calls depth same context
  exact ⟨depth, same, uncalled, fails, equal.symm.trans fails,
    (helpers "unless" Helper.attempt uncalled).trans fails⟩

end Engine

end TreeTemplate
