import TreeTemplate.Error
import TreeTemplate.Node

/-!
# Helpers

A helper gives a block its meaning.  It receives the value of the block's argument and the body,
which it can render any number of times against contexts of its choice, and it returns the node that
replaces the block.
-/

namespace TreeTemplate

/-- The body of a block, as its helper sees it. -/
structure Body where
  /-- The nodes of the body, not expanded. -/
  nodes : List Node
  /-- The current context at the block. -/
  context : Value
  /-- How many blocks surround the nodes of the body. -/
  depth : Nat
  /-- Expands the body with a value as the current context.  The nodes come in a row, and paths to
  the top-level context lead where they always do. -/
  render : Value → Except Error Node

/-- What a block does with the value of its argument and its body. -/
abbrev Helper := Value → Body → Except Error Node

end TreeTemplate
