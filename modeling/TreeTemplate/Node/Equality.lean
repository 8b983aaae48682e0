import TreeTemplate.Node
import TreeTemplate.Value.Equality

/-!
# Equality of trees

Two trees are equal if they have the same shape and names, and equal values in the same places.  It
is the equality of values, so a tree with a number that is none differs from itself.
-/

namespace TreeTemplate.Node

mutual

/-- Equality of trees. -/
def equal : Node → Node → Bool
  | .element t as cs, .element u bs ds =>
    t == u
      && (match as, bs with
        | none, none => true
        | some as, some bs => equalAttrs as bs
        | _, _ => false)
      && equalLists cs ds
  | .var p, .var q => p == q
  | .raw p, .raw q => p == q
  | .block h p as, .block i q bs => h == i && p == q && equalLists as bs
  | .join as, .join bs => equalLists as bs
  | .concat as, .concat bs => equalLists as bs
  | .group as, .group bs => equalLists as bs
  | .literal v, .literal w => v == w
  | .unescaped v, .unescaped w => v == w
  | _, _ => false

/-- Equality of rows of trees, one by one. -/
def equalLists : List Node → List Node → Bool
  | [], [] => true
  | a :: as, b :: bs => equal a b && equalLists as bs
  | _, _ => false

/-- Equality of attributes, in order. -/
def equalAttrs : List (String × Node) → List (String × Node) → Bool
  | [], [] => true
  | (k, a) :: as, (l, b) :: bs => k == l && equal a b && equalAttrs as bs
  | _, _ => false

end

instance : BEq Node := ⟨equal⟩

end TreeTemplate.Node
