import TreeTemplate.Helper
import TreeTemplate.Entries

/-!
# Builtin helpers

The helpers every new engine has: `with`, `each`, `if`, and `unless`, which is also there as `else`.
-/

namespace TreeTemplate.Helper

/-- Renders the body once with the argument as the current context. -/
def withValue : Helper := fun value body =>
  body.render value

/-- Renders the body once for every item of a list, or for every value of a map in the order of the
keys.  Any other value renders nothing. -/
def each : Helper := fun value body =>
  Node.concat <$>
    match value with
    | .list items => items.mapM body.render
    | .map entries => entries.mapM fun entry => body.render entry.2
    | _ => .ok []

/-- Renders the body in the current context if the argument is set. -/
def ifSet : Helper := fun value body =>
  if value.isTruthy then body.render body.context else .ok (.concat [])

/-- Renders the body in the current context if the argument is not set. -/
def ifUnset : Helper := fun value body =>
  if value.isTruthy then .ok (.concat []) else body.render body.context

/-- The builtin helpers by name. -/
def builtins : Entries Helper :=
  Entries.ofList
    [("with", withValue), ("each", each), ("if", ifSet), ("unless", ifUnset), ("else", ifUnset)]

end TreeTemplate.Helper
