import TreeTemplate.Node
import TreeTemplate.Path.Parse

/-!
# Building trees

Builders that check what they are given.  An element is built step by step: a tag first, then
attributes and children in any order.  An attribute set again takes the place of the earlier one,
and an attribute with an invalid name leaves the element as it was.
-/

namespace TreeTemplate

/-- Fails unless a text names an attribute. -/
def checkAttributeName (name : String) : Except Error Unit :=
  if isTagName name then .ok () else fail (.invalidAttribute name)

/-- An element of markup. -/
structure Element where
  tag : String
  /-- The attributes in order of their names, or nothing if none was ever set. -/
  attrs : Option (Entries Node) := none
  children : List Node := []

namespace Element

/-- An element without attributes and children. -/
def ofTag (tag : String) : Except Error Element :=
  if isTagName tag then .ok ⟨tag, none, []⟩ else fail (.invalidTag tag)

/-- Sets an attribute. -/
def attr (element : Element) (name : String) (value : Node) : Except Error Element := do
  checkAttributeName name
  pure { element with attrs := some (Entries.insert name value (element.attrs.getD [])) }

/-- Appends a child. -/
def child (element : Element) (node : Node) : Element :=
  { element with children := element.children ++ [node] }

/-- Appends children. -/
def addChildren (element : Element) (nodes : List Node) : Element :=
  { element with children := element.children ++ nodes }

/-- The element as a node. -/
def toNode (element : Element) : Node :=
  .element element.tag element.attrs element.children

end Element

/-- A call of a helper. -/
structure Block where
  helper : String
  arg : Path
  body : List Node

namespace Block

/-- A block whose helper and path are given as text.  The helper is checked first. -/
def of (helper arg : String) (body : List Node) : Except Error Block :=
  if isIdentifier helper then do
    pure ⟨helper, ← Path.parse arg, body⟩
  else fail (.invalidHelper helper)

/-- The opening token of a block. -/
def token (block : Block) : String :=
  (Token.opening block.helper block.arg).text

/-- The block as a node. -/
def toNode (block : Block) : Node :=
  .block block.helper block.arg block.body

end Block

namespace Node

/-- An escaped reference with a path given as text. -/
def varOf (path : String) : Except Error Node :=
  Node.var <$> Path.parse path

/-- A reference written as it is, with a path given as text. -/
def rawOf (path : String) : Except Error Node :=
  Node.raw <$> Path.parse path

/-- A block whose helper and path are given as text. -/
def blockOf (helper arg : String) (body : List Node) : Except Error Node :=
  Block.toNode <$> Block.of helper arg body

/-- The element that a node is. -/
def element? : Node → Option Element
  | .element tag attrs children => some ⟨tag, attrs, children⟩
  | _ => none

/-- The block that a node is. -/
def block? : Node → Option Block
  | .block helper arg body => some ⟨helper, arg, body⟩
  | _ => none

end Node

/-- A tree kept to be expanded or rendered. -/
structure Template where
  root : Node

/-- Several templates as one, its members independent. -/
def Template.group (templates : List Template) : Template :=
  ⟨.group (templates.map Template.root)⟩

end TreeTemplate
