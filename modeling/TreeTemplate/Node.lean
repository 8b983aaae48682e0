import TreeTemplate.Path
import TreeTemplate.Value

/-!
# Template trees

A tree has elements of markup, placeholders that expansion resolves, sequences in three manners, and
values.  Trees of templates and the trees that expansion makes of them are of one type.

Trees are plain data.  `Node.WellFormed` says that names and paths are valid and that attributes and
maps are in order of their keys; the builders in `TreeTemplate.Node.Build` and the decoder of the
data form make no other trees.
-/

namespace TreeTemplate

/-- A node of a template tree, or of a tree made from one. -/
inductive Node where
  /-- Markup with a tag, attributes by name, and children.  An element without attributes differs
  from one with an empty collection of them only in its data form. -/
  | element (tag : String) (attrs : Option (List (String × Node))) (children : List Node)
  /-- A reference whose value is escaped. -/
  | var (path : Path)
  /-- A reference whose value is written as it is. -/
  | raw (path : Path)
  /-- A call of a helper with the value of a path and a body. -/
  | block (helper : String) (arg : Path) (body : List Node)
  /-- Children with single spaces between them. -/
  | join (children : List Node)
  /-- Children with nothing between them. -/
  | concat (children : List Node)
  /-- Independent templates taken as one. -/
  | group (children : List Node)
  /-- A value, escaped in text. -/
  | literal (value : Value)
  /-- A value, written as it is. -/
  | unescaped (value : Value)
deriving Inhabited

/-- Nodes in a row, such as a single node turns into. -/
abbrev Fragment := List Node

namespace Node

/-- Whether expansion replaces the node. -/
def isPlaceholder : Node → Bool
  | .var _ | .raw _ | .block _ _ _ => true
  | _ => false

/-- The value of a literal. -/
def literal? : Node → Option Value
  | .literal value => some value
  | _ => none

mutual

/-- Tags, attribute names, helpers and paths are valid, attributes are in order, and so are the keys
of the maps inside values. -/
def WellFormed : Node → Prop
  | .element tag attrs children =>
    isTagName tag
      ∧ (match attrs with
        | none => True
        | some attrs => Entries.Sorted attrs ∧ AttrsWellFormed attrs)
      ∧ AllWellFormed children
  | .var path => Path.ofText? path.text = some path
  | .raw path => Path.ofText? path.text = some path
  | .block helper arg body =>
    isIdentifier helper ∧ Path.ofText? arg.text = some arg ∧ AllWellFormed body
  | .join children => AllWellFormed children
  | .concat children => AllWellFormed children
  | .group children => AllWellFormed children
  | .literal value => value.WellFormed
  | .unescaped value => value.WellFormed

/-- `Node.WellFormed` for every node of a list. -/
def AllWellFormed : List Node → Prop
  | [] => True
  | node :: rest => node.WellFormed ∧ AllWellFormed rest

/-- The names are valid and the nodes well formed. -/
def AttrsWellFormed : List (String × Node) → Prop
  | [] => True
  | (name, node) :: rest => isTagName name ∧ node.WellFormed ∧ AttrsWellFormed rest

end

end Node

end TreeTemplate
