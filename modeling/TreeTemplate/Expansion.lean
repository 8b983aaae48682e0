import TreeTemplate.Fragment
import TreeTemplate.Helper
import TreeTemplate.Path.Resolve

/-!
# Expansion

A template is expanded against a context by walking it top-down.  References are replaced by the
values they resolve to, or by the empty value where they resolve to nothing.  A block is replaced by
what its helper returns, which is expanded in turn, so that a helper may return placeholders.  The
top-level context is fixed for the whole expansion, while the current one changes when a helper
renders the body of its block.

Blocks may be nested up to a limit, and both the body of a block and what its helper returns count
as nested in it.  So an expansion is defined by recursion on how many more blocks may be nested, and
for each such number by recursion on the tree, where the meaning of blocks comes from the number
below.  The walk over one tree, `Node.expandWith`, is the same for all computations that may fail at
a place in the tree.
-/

namespace TreeTemplate

namespace Node

variable {m : Type → Type} [Monad m] [Located m]

mutual

/-- Expands a tree, given the values of paths and the meaning of blocks. -/
def expandWith (value : Path → Value)
    (block : (helper : String) → (arg : Path) → (body : List Node) → m Fragment) :
    Node → m Fragment
  | .element tag attrs children => Located.within (.element tag) do
    let attrs ← match attrs with
      | none => pure none
      | some attrs => some <$> expandAttrsWith value block attrs
    let children ← expandEachWith value block children
    pure [.element tag attrs children.flatten]
  | .var path => pure [.literal (value path)]
  | .raw path => pure [.unescaped (value path)]
  | .block helper arg body => block helper arg body
  | .join children => Fragment.spaced <$> expandEachWith value block children
  | .concat children => List.flatten <$> expandEachWith value block children
  | .group children => List.flatten <$> expandEachWith value block children
  | .literal value => pure [.literal value]
  | .unescaped value => pure [.unescaped value]
termination_by structural node => node

/-- Expands each tree of a row. -/
def expandEachWith (value : Path → Value)
    (block : (helper : String) → (arg : Path) → (body : List Node) → m Fragment) :
    List Node → m (List Fragment)
  | [] => pure []
  | node :: rest => do
    let fragment ← node.expandWith value block
    pure (fragment :: (← expandEachWith value block rest))
termination_by structural nodes => nodes

/-- Expands the values of attributes. -/
def expandAttrsWith (value : Path → Value)
    (block : (helper : String) → (arg : Path) → (body : List Node) → m Fragment) :
    List (String × Node) → m (List (String × Node))
  | [] => pure []
  | (name, node) :: rest => do
    let fragment ← node.expandWith value block
    pure ((name, Fragment.toAttribute fragment) :: (← expandAttrsWith value block rest))
termination_by structural attrs => attrs

end

end Node

/-- What stays the same during an expansion. -/
structure Expansion where
  /-- The helpers by name. -/
  helper? : String → Option Helper
  /-- How many blocks may be nested in each other. -/
  limit : UInt64
  /-- The top-level context. -/
  top : Value

namespace Expansion

/-- The value of a path, the empty value if it resolves to nothing. -/
def value (expansion : Expansion) (current : Value) (path : Path) : Value :=
  (path.resolve current expansion.top).getD .none

/-- Expands a tree in which so many more blocks may be nested. -/
def run (expansion : Expansion) : Nat → Value → Node → Except Error Fragment
  | 0, current => Node.expandWith (expansion.value current) fun helper arg _ =>
    within (.block helper arg) (fail (.maxDepth expansion.limit))
  | left + 1, current => Node.expandWith (expansion.value current) fun helper arg body =>
    within (.block helper arg) do
      match expansion.helper? helper with
      | none => fail (.helperNotFound helper)
      | some call =>
        let result ← call (expansion.value current arg)
          { nodes := body
            context := current
            depth := expansion.limit.toNat - left
            render := fun context => Node.concat <$> expansion.run left context (.concat body) }
        expansion.run left current result

/-- Expands a template against the top-level context. -/
def expand (expansion : Expansion) (root : Node) : Except Error Node :=
  Fragment.toRoot <$> expansion.run expansion.limit.toNat expansion.top root

end Expansion

end TreeTemplate
