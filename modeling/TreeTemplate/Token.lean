import TreeTemplate.Path

/-!
# Placeholder tokens

The text of placeholders: a reference that is escaped has two braces on each side, one that is not
has three, and a block stands between an opening token with its helper and argument and a closing
token with its helper.
-/

namespace TreeTemplate

/-- A placeholder in text. -/
inductive Token where
  | var (path : Path)
  | raw (path : Path)
  | opening (helper : String) (arg : Path)
  | closing (helper : String)
deriving DecidableEq, Repr

/-- The text of a token. -/
def Token.text : Token → String
  | .var path => "\x7b\x7b" ++ path.text ++ "\x7d\x7d"
  | .raw path => "\x7b\x7b\x7b" ++ path.text ++ "\x7d\x7d\x7d"
  | .opening helper arg => "\x7b\x7b#" ++ helper ++ " " ++ arg.text ++ "\x7d\x7d"
  | .closing helper => "\x7b\x7b/" ++ helper ++ "\x7d\x7d"

end TreeTemplate
