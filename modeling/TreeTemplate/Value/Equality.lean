import TreeTemplate.Value

/-!
# Equality of values

Two values are equal if they have the same kind and the same contents.  Floating point numbers are
compared as numbers: both zeros are equal, and what is no number differs from everything, itself
included.  So this equality is not that of Lean, and a value that holds such a number is not equal
to itself.
-/

namespace TreeTemplate.Value

mutual

/-- Equality of values. -/
def equal : Value → Value → Bool
  | .none, .none => true
  | .bool a, .bool b => a == b
  | .integer a, .integer b => a == b
  | .float a, .float b => a == b
  | .string a, .string b => a == b
  | .list as, .list bs => equalLists as bs
  | .map as, .map bs => equalEntries as bs
  | _, _ => false

/-- Equality of lists of values, item by item. -/
def equalLists : List Value → List Value → Bool
  | [], [] => true
  | a :: as, b :: bs => equal a b && equalLists as bs
  | _, _ => false

/-- Equality of entries, in order. -/
def equalEntries : List (String × Value) → List (String × Value) → Bool
  | [], [] => true
  | (k, a) :: as, (l, b) :: bs => k == l && equal a b && equalEntries as bs
  | _, _ => false

end

instance : BEq Value := ⟨equal⟩

end TreeTemplate.Value
