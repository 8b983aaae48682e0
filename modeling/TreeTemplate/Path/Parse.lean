import TreeTemplate.Error

/-!
# Checked paths

Reading a path with the error that says why a text is none.
-/

namespace TreeTemplate

/-- Reads a path, or says that the text is empty or not valid. -/
def Path.parse (text : String) : Except Error Path :=
  match Path.ofText? text with
  | some path => .ok path
  | none => fail (if text = "" then .emptyPath else .invalidPath text)

end TreeTemplate
