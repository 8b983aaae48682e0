import TreeTemplate.Engine
import TreeTemplate.Proofs.Outcome

/-!
# Evaluation by an engine

What the two modes of evaluation are for a tree given as it is, that a result for any other source is
the result for some tree, and what an engine finds under a name after a helper was added.
-/

namespace TreeTemplate.Engine

/-- Rendering a tree with a context is expanding it there. -/
@[simp]
lemma expandFrom_tree (engine : Engine) (node : Node) (context : Value) :
    engine.expandFrom (.tree node) context = (engine.expansion context).expand node := rfl

/-- A tree is expanded at the root, where the top-level context is the current one. -/
lemma expandFrom_tree_eq_run (engine : Engine) (node : Node) (context : Value) :
    engine.expandFrom (.tree node) context =
      Fragment.toRoot <$> (engine.expansion context).run engine.maxDepth.toNat context node := rfl

/-- The syntax of a tree needs no template to be looked up. -/
@[simp]
lemma toSyntax_tree (engine : Engine) (node : Node) :
    engine.toSyntax (.tree node) = .ok node.toSyntax := rfl

/-- With a helper added its name leads to it, and every other name to what it led to. -/
lemma lookup_helpers_addHelper (engine : Engine) (added : String) (helper : Helper)
    (name : String) :
    (engine.addHelper added helper).helpers.lookup name =
      if name = added then some helper else engine.helpers.lookup name :=
  Entries.lookup_insert

/-- A source that leads to a tree is evaluated as the tree is, if that has a result. -/
lemma apply_of_find {engine : Engine} {source : Source} {context : Option Value} {root node : Node}
    {name : Option String} (found : engine.find source = .ok (root, name))
    (h : engine.apply source context = .ok node) :
    engine.apply (.tree root) context = .ok node := by
  unfold apply at h
  rw [found, ok_bind] at h
  cases name with
  | none => exact h
  | some name =>
    change (engine.apply (.tree root) context).mapError (Error.inTemplate name) = _ at h
    cases result : engine.apply (.tree root) context with
    | ok other =>
      rw [result] at h
      exact h
    | error error =>
      rw [result] at h
      cases h

/-- The result of expanding a source is that of expanding a tree. -/
lemma exists_expand_of_expandFrom {engine : Engine} {source : Source} {context : Value}
    {node : Node} (h : engine.expandFrom source context = .ok node) :
    ∃ root, (engine.expansion context).expand root = .ok node := by
  obtain ⟨⟨root, name⟩, found, -⟩ := bind_eq_ok_iff.1 h
  exact ⟨root, apply_of_find found h⟩

end TreeTemplate.Engine
