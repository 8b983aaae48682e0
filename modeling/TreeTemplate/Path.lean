import TreeTemplate.Name
import TreeTemplate.Text.Digits

/-!
# Paths

A path refers to a value in the context: `this` is the current context itself, `user.name` and
`items.0` go down from it, and `../title` goes down from the top-level context.

A text is a path if it is `this`, or segments separated by dots, each an identifier or a run of
digits, with any number of markers `../` in front.  Only the first marker is understood.  What
follows it is cut at every dot, those of further markers included, so that `../../x` has the
segments ``, `` and `/x`, which are keys like any other and hardly ever present.

`Path.text` gives back the text a path was read from, so a path need not keep it.
-/

namespace TreeTemplate

/-- A reference into the context. -/
inductive Path where
  /-- The current context. -/
  | this
  /-- A value reached from the current context. -/
  | current (segments : List String)
  /-- A value reached from the top-level context. -/
  | parent (segments : List String)
deriving DecidableEq, Repr

namespace Path

/-- The text of a path. -/
def text : Path → String
  | .this => "this"
  | .current segments => String.intercalate "." segments
  | .parent segments => "../" ++ String.intercalate "." segments

/-- Whether a path starts from the top-level context. -/
def isParent : Path → Bool
  | .parent _ => true
  | _ => false

/-- Whether a text may stand between the dots of a path. -/
def isSegment (text : String) : Bool :=
  isIdentifier text || Text.isDigits text

/-- Takes every marker off the front of a text. -/
def dropMarkers : List Char → List Char
  | '.' :: '.' :: '/' :: rest => dropMarkers rest
  | text => text

/-- Cuts a text at its dots. -/
def segmentsOf (text : List Char) : List String :=
  (text.splitOn '.').map String.ofList

/-- Reads a path. -/
def ofText? (text : String) : Option Path :=
  if text = "this" then some .this
  else if (segmentsOf (dropMarkers text.toList)).all isSegment then
    some <| match text.toList with
      | '.' :: '.' :: '/' :: rest => .parent (segmentsOf rest)
      | whole => .current (segmentsOf whole)
  else none

end Path

end TreeTemplate
