import TreeTemplate.Form.Marker
import TreeTemplate.Node.Build

/-!
# Trees as data

The data form of a tree.  Placeholders and sequences become lists led by their marker, an element
becomes a list of its tag, its attributes as a map if it has them, and its children.  A literal
becomes its value, so that the data form of an expanded tree is ready for any other serializer.
-/

namespace TreeTemplate

/-- A list led by a marker. -/
def Marker.lead (marker : Marker) (items : List Value) : Value :=
  .list (.string marker.text :: items)

namespace Node

mutual

/-- The data form of a tree. -/
def toValue : Node → Value
  | .element tag none children => .list (.string tag :: toValues children)
  | .element tag (some attrs) children =>
    .list (.string tag :: .map (attrsToEntries attrs) :: toValues children)
  | .var path => Marker.var.lead [.string path.text]
  | .raw path => Marker.raw.lead [.string path.text]
  | .block helper arg body =>
    Marker.block.lead (.string helper :: .string arg.text :: toValues body)
  | .join children => Marker.join.lead (toValues children)
  | .concat children => Marker.concat.lead (toValues children)
  | .group children => Marker.group.lead (toValues children)
  | .literal value => value
  | .unescaped value => Marker.unescaped.lead [value]

/-- The data forms of trees in a row. -/
def toValues : List Node → List Value
  | [] => []
  | node :: rest => node.toValue :: toValues rest

/-- The data forms of attributes. -/
def attrsToEntries : List (String × Node) → List (String × Value)
  | [] => []
  | (name, node) :: rest => (name, node.toValue) :: attrsToEntries rest

end

/-- The data forms of trees in a row are those of each. -/
theorem toValues_eq_map (nodes : List Node) : toValues nodes = nodes.map toValue := by
  induction nodes with
  | nil => rfl
  | cons node rest ih => simp [toValues, ih]

/-- The data forms of attributes are their names with the data forms of their values. -/
theorem attrsToEntries_eq_map (attrs : List (String × Node)) :
    attrsToEntries attrs = attrs.map fun attr => (attr.1, attr.2.toValue) := by
  induction attrs with
  | nil => rfl
  | cons attr rest ih => obtain ⟨name, node⟩ := attr; simp [attrsToEntries, ih]

/-- The names of attributes are the keys of their data forms. -/
theorem keys_attrsToEntries (attrs : List (String × Node)) :
    (attrsToEntries attrs).map Prod.fst = attrs.map Prod.fst := by
  rw [attrsToEntries_eq_map, List.map_map]
  rfl

end Node

/-- The data form of a template. -/
def Template.toValue (template : Template) : Value :=
  template.root.toValue

end TreeTemplate
