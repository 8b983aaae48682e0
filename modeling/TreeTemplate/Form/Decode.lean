import TreeTemplate.Form.Shape
import TreeTemplate.Node.Build

/-!
# Trees from data

Reading the data form, see `TreeTemplate.Form.Shape`.  A list that has the shape of a placeholder or
an element but is malformed is an error, whose trail has the tags of the elements around it.
Literal values are taken as they are, and nothing inside them is looked at.

In a block the body is read before the helper and the path are checked, and of an attribute the name
is checked before its value is read.
-/

namespace TreeTemplate

namespace Form

/-- The path of a reference in data form. -/
def referencePath (marker : Marker) : List Value → Except Error Path
  | [.string text] => Path.parse text
  | [other] => fail (.pathNotString marker other.kind)
  | items => fail (.pathCount marker items.length)

/-- The value of an unescaped node in data form. -/
def unescapedValue : List Value → Except Error Value
  | [value] => .ok value
  | items => fail (.unescapedCount items.length)

end Form

namespace Node

mutual

/-- Reads a tree from its data form. -/
def ofValue : Value → Except Error Node
  | .list items =>
    match items with
    | .string head :: rest =>
      match Marker.ofText? head with
      | some .var => Node.var <$> Form.referencePath .var rest
      | some .raw => Node.raw <$> Form.referencePath .raw rest
      | some .block =>
        match rest with
        | .string helper :: .string arg :: body => do blockOf helper arg (← ofValues body)
        | _ :: _ :: _ => fail .blockNotStrings
        | _ => fail .blockIncomplete
      | some .join => Node.join <$> ofValues rest
      | some .concat => Node.concat <$> ofValues rest
      | some .group => Node.group <$> ofValues rest
      | some .unescaped => Node.unescaped <$> Form.unescapedValue rest
      | none =>
        if isTagName head then
          within (.element head) <|
            match rest with
            | .map entries :: children => do
              let attrs ← attrsOfEntries entries
              pure (.element head (some attrs) (← ofValues children))
            | children => Node.element head none <$> ofValues children
        else .ok (.literal (.list items))
    | first :: rest =>
      if first.kind = .list then do
        let node ← ofValue first
        pure (.concat (node :: (← ofValues rest)))
      else .ok (.literal (.list items))
    | [] => .ok (.literal (.list []))
  | value => .ok (.literal value)
termination_by structural value => value

/-- Reads trees in a row. -/
def ofValues : List Value → Except Error (List Node)
  | [] => .ok []
  | value :: rest => do
    let node ← ofValue value
    pure (node :: (← ofValues rest))
termination_by structural values => values

/-- Reads attributes. -/
def attrsOfEntries : List (String × Value) → Except Error (List (String × Node))
  | [] => .ok []
  | (name, value) :: rest => do
    checkAttributeName name
    let node ← ofValue value
    pure ((name, node) :: (← attrsOfEntries rest))
termination_by structural entries => entries

end

end Node

/-- Reads a template from its data form. -/
def Template.ofValue (value : Value) : Except Error Template :=
  Template.mk <$> Node.ofValue value

end TreeTemplate
