import TreeTemplate.Entries

/-!
# Values

Context data: scalars, lists, and maps from strings to values.  The data form of a template is a
value too, see `TreeTemplate.Form`.

A map is a list of entries.  `Value.WellFormed` says that the keys of every map inside are in order,
which is what all constructions of values in this library give.
-/

namespace TreeTemplate

/-- Context data. -/
inductive Value where
  | none
  | bool (b : Bool)
  | integer (n : Int64)
  | float (x : Float)
  | string (text : String)
  | list (items : List Value)
  | map (entries : List (String × Value))
deriving Inhabited

namespace Value

/-- The kinds of values. -/
inductive Kind where
  | none
  | bool
  | integer
  | float
  | string
  | list
  | map
deriving DecidableEq, Repr

/-- The word for a kind in messages. -/
def Kind.name : Kind → String
  | .none => "none"
  | .bool => "bool"
  | .integer => "integer"
  | .float => "float"
  | .string => "string"
  | .list => "list"
  | .map => "map"

/-- The kind of a value. -/
def kind : Value → Kind
  | .none => .none
  | .bool _ => .bool
  | .integer _ => .integer
  | .float _ => .float
  | .string _ => .string
  | .list _ => .list
  | .map _ => .map

/-- Whether a conditional block takes the value as set.  Nothing, `false`, zero, the empty string
and the empty list are not set; an empty map is. -/
def isTruthy : Value → Bool
  | .none => false
  | .bool b => b
  | .integer n => n != 0
  | .float x => x != 0
  | .string text => text != ""
  | .list items => !items.isEmpty
  | .map _ => true

mutual

/-- The keys of every map in the value are in strictly increasing order. -/
def WellFormed : Value → Prop
  | .list items => AllWellFormed items
  | .map entries => Entries.Sorted entries ∧ EntriesWellFormed entries
  | _ => True

/-- `Value.WellFormed` for every item of a list. -/
def AllWellFormed : List Value → Prop
  | [] => True
  | item :: rest => item.WellFormed ∧ AllWellFormed rest

/-- `Value.WellFormed` for the value of every entry. -/
def EntriesWellFormed : List (String × Value) → Prop
  | [] => True
  | (_, value) :: rest => value.WellFormed ∧ EntriesWellFormed rest

end

end Value

end TreeTemplate
