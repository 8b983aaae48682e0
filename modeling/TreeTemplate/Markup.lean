import TreeTemplate.Decimal.Shortest
import TreeTemplate.Markup.Escape
import TreeTemplate.Markup.Sink
import TreeTemplate.Node

/-!
# Markup

An expanded tree is serialized to markup.  Elements become tags with their attributes in order of
the names.  Literal values are escaped and unescaped ones are written as they are.  Maps and
placeholders have no text.

An attribute whose value is directly nothing or `false` is left out, one that is directly `true` is
written as a bare name, and any other is written in quotes, even if its text is empty.
-/

namespace TreeTemplate

namespace Value

variable {σ : Type} [Sink σ]

mutual

/-- Writes a value, its strings treated in some way.  The items of a list have nothing between them.
-/
def write (treat : String → String) : Value → Write σ Unit
  | .none => pure ()
  | .bool b => .put (if b then "true" else "false")
  | .integer n => .put (toString n.toInt)
  | .float x => .put (floatText x)
  | .string text => .put (treat text)
  | .list items => writeEach treat items
  | .map _ => .fail (.unformattable .map)
termination_by structural value => value

/-- Writes values one after the other. -/
def writeEach (treat : String → String) : List Value → Write σ Unit
  | [] => pure ()
  | item :: rest => do
    item.write treat
    writeEach treat rest
termination_by structural items => items

end

end Value

/-- How an attribute is written. -/
inductive AttributeForm where
  | absent
  | bare
  | quoted
deriving DecidableEq, Repr

namespace Node

/-- How an attribute with a value is written. -/
def attributeForm : Node → AttributeForm
  | .literal .none | .literal (.bool false) | .unescaped .none | .unescaped (.bool false) => .absent
  | .literal (.bool true) | .unescaped (.bool true) => .bare
  | _ => .quoted

variable {σ : Type} [Sink σ]

mutual

/-- Writes a tree as markup. -/
def write : Node → Write σ Unit
  | .element tag attrs children => .within (.element tag) do
    .put ("<" ++ tag)
    match attrs with
    | none => pure ()
    | some attrs => writeAttrs attrs
    .put ">"
    writeEach children
    .put ("</" ++ tag ++ ">")
  | .var path => .fail (.unexpanded (.var path))
  | .raw path => .fail (.unexpanded (.raw path))
  | .block helper arg _ => .fail (.unexpanded (.opening helper arg))
  | .join [] => pure ()
  | .join (first :: rest) => do
    first.write
    writeSpaced rest
  | .concat children => writeEach children
  | .group children => writeEach children
  | .literal value => value.write Markup.escape
  | .unescaped value => value.write id
termination_by structural node => node

/-- Writes trees one after the other. -/
def writeEach : List Node → Write σ Unit
  | [] => pure ()
  | node :: rest => do
    node.write
    writeEach rest
termination_by structural nodes => nodes

/-- Writes trees one after the other with a space before each. -/
def writeSpaced : List Node → Write σ Unit
  | [] => pure ()
  | node :: rest => do
    .put " "
    node.write
    writeSpaced rest
termination_by structural nodes => nodes

/-- Writes attributes. -/
def writeAttrs : List (String × Node) → Write σ Unit
  | [] => pure ()
  | (name, node) :: rest => do
    match node.attributeForm with
    | .absent => pure ()
    | .bare => .put (" " ++ name)
    | .quoted => do
      .put (" " ++ name ++ "=\x22")
      .within (.attribute name) node.write
      .put "\x22"
    writeAttrs rest
termination_by structural attrs => attrs

end

/-- The markup of a tree, or why it has none. -/
def toText (node : Node) : Except Error String :=
  match (node.write : Write String Unit) "" with
  | (.ok (), text) => .ok text
  | (.error stop, _) => .error stop.toError

/-- Writes the markup of a tree to a sink.  The sink comes back with what it took. -/
def writeTo (node : Node) (sink : σ) : Except Error Unit × σ :=
  match (node.write : Write σ Unit) sink with
  | (.ok (), sink) => (.ok (), sink)
  | (.error stop, sink) => (.error stop.toError, sink)

end Node

end TreeTemplate
