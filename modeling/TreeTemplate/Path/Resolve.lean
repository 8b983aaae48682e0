import TreeTemplate.Path
import TreeTemplate.Value

/-!
# Resolving paths

A segment finds the entry of a map under that key, or the item of a list at that index.  A path is
followed segment by segment.  Missing data is never an error: a path that leads nowhere resolves to
nothing.
-/

namespace TreeTemplate

/-- What one segment finds in a value. -/
def Value.member? (value : Value) (segment : String) : Option Value :=
  match value with
  | .map entries => entries.lookup segment
  | .list items => (Text.index? segment).bind fun index => items[index]?
  | _ => .none

/-- What segments find in a value, one after the other. -/
def Value.follow? (value : Value) : List String → Option Value
  | [] => some value
  | segment :: rest => (value.member? segment).bind fun found => found.follow? rest

/-- What a path refers to, given the current and the top-level context. -/
def Path.resolve (path : Path) (current top : Value) : Option Value :=
  match path with
  | .this => some current
  | .current segments => current.follow? segments
  | .parent segments => top.follow? segments

end TreeTemplate
