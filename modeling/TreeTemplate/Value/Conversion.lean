import TreeTemplate.Value

/-!
# Conversion to values

Plain data becomes a value of the matching kind.  Whole numbers of every width up to 64 bits become
integers, characters become strings, and an absent thing becomes the empty value.
-/

namespace TreeTemplate

/-- Types whose members can be taken as values. -/
class ToValue (α : Type) where
  toValue : α → Value

export ToValue (toValue)

instance : ToValue Value := ⟨id⟩
instance : ToValue Unit := ⟨fun _ => .none⟩
instance : ToValue Bool := ⟨.bool⟩
instance : ToValue UInt8 := ⟨fun n => .integer n.toUInt64.toInt64⟩
instance : ToValue UInt16 := ⟨fun n => .integer n.toUInt64.toInt64⟩
instance : ToValue UInt32 := ⟨fun n => .integer n.toUInt64.toInt64⟩
instance : ToValue Int8 := ⟨fun n => .integer n.toInt64⟩
instance : ToValue Int16 := ⟨fun n => .integer n.toInt64⟩
instance : ToValue Int32 := ⟨fun n => .integer n.toInt64⟩
instance : ToValue Int64 := ⟨.integer⟩
instance : ToValue Float := ⟨.float⟩
instance : ToValue Float32 := ⟨fun x => .float x.toFloat⟩
instance : ToValue Char := ⟨fun c => .string c.toString⟩
instance : ToValue String := ⟨.string⟩

instance {α : Type} [ToValue α] : ToValue (Option α) :=
  ⟨fun
    | none => .none
    | some thing => toValue thing⟩

instance {α : Type} [ToValue α] : ToValue (List α) :=
  ⟨fun things => .list (things.map toValue)⟩

instance {α : Type} [ToValue α] : ToValue (Array α) :=
  ⟨fun things => .list (things.toList.map toValue)⟩

/-- The map with the given pairs, a later pair taking the place of an earlier one of the same key.
-/
def Value.ofPairs {α : Type} [ToValue α] (pairs : List (String × α)) : Value :=
  .map (Entries.ofList (pairs.map fun pair => (pair.1, toValue pair.2)))

end TreeTemplate
