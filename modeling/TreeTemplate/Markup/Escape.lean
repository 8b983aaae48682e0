/-!
# Escaping

The characters that have a meaning in markup, `<`, `>`, `&` and both quotes, are written as
character references.  What is left can stand between tags and inside a quoted attribute without
ending either.
-/

namespace TreeTemplate.Markup

/-- A character as it stands in markup. -/
def escapeChar (c : Char) : List Char :=
  match c with
  | '<' => "&lt;".toList
  | '>' => "&gt;".toList
  | '&' => "&amp;".toList
  | '\x22' => "&quot;".toList
  | '\x27' => "&#x27;".toList
  | c => [c]

/-- A text as it stands in markup. -/
def escape (text : String) : String :=
  String.ofList (text.toList.flatMap escapeChar)

end TreeTemplate.Markup
