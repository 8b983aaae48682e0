/-!
# Markers

In the data form a list that starts with one of seven strings stands for a node of that kind.  The
strings start with two colons, so none of them is a tag name.
-/

namespace TreeTemplate

/-- The strings that lead the data form of a node. -/
inductive Marker where
  | var
  | raw
  | block
  | join
  | concat
  | group
  | unescaped
deriving DecidableEq, Repr

namespace Marker

/-- The string of a marker. -/
def text : Marker → String
  | .var => "::var"
  | .raw => "::raw"
  | .block => "::block"
  | .join => "::join"
  | .concat => "::concat"
  | .group => "::group"
  | .unescaped => "::unescaped"

/-- All markers. -/
def all : List Marker :=
  [.var, .raw, .block, .join, .concat, .group, .unescaped]

/-- The marker with a string. -/
def ofText? (text : String) : Option Marker :=
  all.find? fun marker => marker.text == text

/-- A marker is found by its string and by no other. -/
theorem ofText?_eq_some_iff {text : String} {marker : Marker} :
    ofText? text = some marker ↔ text = marker.text := by
  constructor
  · intro h
    have found := List.find?_some h
    exact (beq_iff_eq.1 found).symm
  · rintro rfl
    cases marker <;> decide

end Marker

end TreeTemplate
