import TreeTemplate.Engine
import TreeTemplate.Text.Quoted

/-!
# Descriptions of engines

What an engine and a source look like in reports for developers: names in quotes, and nothing of
what helpers do.
-/

namespace TreeTemplate

/-- The names an engine holds, and its limit on nested blocks. -/
def Engine.describe (engine : Engine) : String :=
  "Engine \x7b helpers: " ++ Text.quotedList (Entries.keys engine.helpers)
    ++ ", templates: " ++ Text.quotedList (Entries.keys engine.templates)
    ++ ", max_depth: " ++ toString engine.maxDepth.toNat ++ " \x7d"

/-- The name of a source that has one.  A function is not looked into, and a tree is no name. -/
def Source.describe : Source → Option String
  | .named name => some ("Name(" ++ Text.quoted name ++ ")")
  | .deferred _ => some "Fn(..)"
  | .tree _ => none

end TreeTemplate
