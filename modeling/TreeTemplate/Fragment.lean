import TreeTemplate.Node

/-!
# Fragments

The nodes that a single node turns into, to be put into the row of its parent.  A fragment that has
no parent row is made one node: at the root of a tree by `Fragment.toRoot`, and as the value of an
attribute by `Fragment.toAttribute`.
-/

namespace TreeTemplate

/-- The space between joined children. -/
def Node.space : Node :=
  .literal (.string " ")

namespace Fragment

/-- Fragments in a row with a space between each two, empty ones included. -/
def spaced (fragments : List Fragment) : Fragment :=
  [Node.space].intercalate fragments

/-- The tree made from the fragment of its root: a single node stands for itself, and anything else
is a group. -/
def toRoot : Fragment → Node
  | [node] => node
  | nodes => .group nodes

/-- The attribute value made from its fragment: nothing becomes the empty value, a single node
stands for itself, and several are a row. -/
def toAttribute : Fragment → Node
  | [] => .literal .none
  | [node] => node
  | nodes => .concat nodes

end Fragment

end TreeTemplate
