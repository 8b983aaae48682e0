import TreeTemplate.Form.Marker
import TreeTemplate.Name
import TreeTemplate.Value

/-!
# Shapes of the data form

A template can be written as plain data, and each value stands for a node by its shape:

* a list led by a marker stands for the node of that marker;
* a list led by a tag name stands for an element, and a map right after the tag has its attributes;
* a list led by a list stands for its items in a row;
* anything else stands for itself.

The predicates look at the head of a list only.
-/

namespace TreeTemplate.Value

/-- The marker that leads a list. -/
def marker? : Value → Option Marker
  | .list (.string head :: _) => Marker.ofText? head
  | _ => .none

/-- Whether a value has the shape of an escaped reference. -/
def isVar (value : Value) : Bool :=
  value.marker? == some .var

/-- Whether a value has the shape of a reference that is written as it is. -/
def isRaw (value : Value) : Bool :=
  value.marker? == some .raw

/-- Whether a value has the shape of a block. -/
def isBlock (value : Value) : Bool :=
  value.marker? == some .block

/-- Whether a value has the shape of children with spaces between them. -/
def isJoin (value : Value) : Bool :=
  value.marker? == some .join

/-- Whether a value has the marker of children in a row. -/
def isConcat (value : Value) : Bool :=
  value.marker? == some .concat

/-- Whether a value has the shape of a group. -/
def isGroup (value : Value) : Bool :=
  value.marker? == some .group

/-- Whether a value has the shape of an element. -/
def isElement : Value → Bool
  | .list (.string head :: _) => isTagName head
  | _ => false

end TreeTemplate.Value
