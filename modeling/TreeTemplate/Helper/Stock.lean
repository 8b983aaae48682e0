import TreeTemplate.Error.Report
import TreeTemplate.Form.Decode
import TreeTemplate.Helper

/-!
# Stock helpers

Small helpers that a program may register beside the builtin ones.  Each of them shows one thing
that a helper can do: return a fixed tree, return its argument, read a tree from it, look at the
body without rendering it, render the body in several ways, and recover from an error of the body.
-/

namespace TreeTemplate.Helper

/-- Always returns the same tree, or fails in the same way. -/
def constant (result : Except Error Node) : Helper := fun _ _ =>
  result

/-- Returns the argument, to be escaped. -/
def echo : Helper := fun value _ =>
  .ok (.literal value)

/-- Returns the argument, to be written as it is. -/
def echoRaw : Helper := fun value _ =>
  .ok (.unescaped value)

/-- Reads a tree from the argument. -/
def decode : Helper := fun value _ =>
  Node.ofValue value

/-- Returns the body as it is; it is expanded in place of the block. -/
def nodes : Helper := fun _ body =>
  .ok (.concat body.nodes)

/-- Returns the number of nodes in the body and the current context. -/
def count : Helper := fun _ body =>
  .ok (.concat [.literal (.integer (Int64.ofNat body.nodes.length)), .literal body.context])

/-- How often an argument asks for something: as often as an integer above zero says, and never for
any other value. -/
def repetitions : Value → Nat
  | .integer n => n.toInt.toNat
  | _ => 0

/-- Repeats the body, rendered in the current context, as often as the argument says.  One rendering
is enough, because each would give the same, and a body that is not shown is not rendered. -/
def times : Helper := fun value body =>
  match repetitions value with
  | 0 => .ok (.concat [])
  | count + 1 => do
    let node ← body.render body.context
    pure (.concat (List.replicate (count + 1) node))

/-- A row of equal steps succeeds or fails as one of them does. -/
theorem mapM_replicate {α β ε : Type} (f : α → Except ε β) (a : α) (count : Nat) :
    (List.replicate (count + 1) a).mapM f = List.replicate (count + 1) <$> f a := by
  induction count with
  | zero =>
    rw [List.replicate_succ, List.replicate_zero, List.mapM_cons, List.mapM_nil]
    cases f a <;> rfl
  | succ count ih =>
    rw [List.replicate_succ, List.mapM_cons, ih]
    cases f a <;> rfl

/-- To repeat the body is to render it anew every time. -/
theorem times_eq (value : Value) (body : Body) :
    times value body =
      Node.concat <$> (List.replicate (repetitions value) body.context).mapM body.render := by
  unfold times
  cases repetitions value with
  | zero => rfl
  | succ count =>
    rw [mapM_replicate]
    cases body.render body.context <;> rfl

/-- Renders the body in a fixed context. -/
def render (context : Value) : Helper := fun _ body =>
  body.render context

/-- Renders the body with the argument as context and once more in the current context, with a space
between. -/
def both : Helper := fun value body => do
  let inner ← body.render value
  pure (.join [inner, ← body.render body.context])

/-- Renders the body with the argument as context inside an element that has the argument as its
attribute `arg`. -/
def wrap (tag : String) : Helper := fun value body => do
  let element ← Element.ofTag tag
  let element ← element.attr "arg" (.literal value)
  pure (element.child (← body.render value)).toNode

/-- Renders the body with the argument as context, and shows the error if that fails. -/
def attempt : Helper := fun value body =>
  match body.render value with
  | .ok node => .ok node
  | .error error => .ok (.literal (.string error.display))

end TreeTemplate.Helper
