import TreeTemplate.Form.Encode
import TreeTemplate.Value.Conversion

/-!
# Serial data

A description of data by the calls it makes when it serializes itself.  `Serial.toValue` takes it as
a value: optional data and wrappers leave no trace, a variant with contents becomes a map with its
name as the only key, and records and maps become maps.

A map is described call by call, keys and values apart, since data may make the calls in any order.
Each value goes under the last key before it that has not been used yet, and a key left over at the
end is dropped.  Keys must be strings, characters, integers of at most 64 bits, names of variants,
or wrappers of such.

The first call that has no value ends the whole with its error, and nothing is kept.
-/

namespace TreeTemplate

/-- Data by the calls it makes when it serializes itself. -/
inductive Serial where
  | none
  | some (inner : Serial)
  | unit
  | bool (b : Bool)
  /-- A signed integer of at most 64 bits. -/
  | integer (n : Int64)
  /-- An unsigned integer of at most 64 bits. -/
  | natural (n : UInt64)
  /-- An integer of 128 bits, signed or not. -/
  | wide (signed : Bool)
  | float32 (x : Float32)
  | float (x : Float)
  | char (c : Char)
  | string (text : String)
  | bytes (content : List UInt8)
  /-- A variant without contents. -/
  | label (name : String)
  /-- A wrapper of one thing. -/
  | wrapped (inner : Serial)
  /-- A variant with contents. -/
  | variant (name : String) (contents : Serial)
  | list (items : List Serial)
  | record (fields : List (String × Serial))
  /-- A map by its calls: `true` marks a key, `false` a value. -/
  | map (calls : List (Bool × Serial))
  /-- Data that refuses, with its own words. -/
  | refusal (message : String)
deriving Inhabited

namespace Serial

/-- The text of data in the place of a key. -/
def keyText : Serial → Except Error String
  | .integer n => .ok (toString n.toInt)
  | .natural n => .ok (toString n.toNat)
  | .char c => .ok c.toString
  | .string text => .ok text
  | .label name => .ok name
  | .wrapped inner => inner.keyText
  | .wide signed => fail (.wideInteger signed)
  | .refusal message => fail (.refused message)
  | _ => fail .keyNotString

mutual

/-- Takes data as a value. -/
def toValue : Serial → Except Error Value
  | .none => .ok .none
  | .some inner => inner.toValue
  | .unit => .ok .none
  | .bool b => .ok (.bool b)
  | .integer n => .ok (.integer n)
  | .natural n =>
    if n.toNat < 0x8000000000000000 then .ok (.integer (Int64.ofNat n.toNat))
    else fail .integerRange
  | .wide signed => fail (.wideInteger signed)
  | .float32 x => .ok (.float x.toFloat)
  | .float x => .ok (.float x)
  | .char c => .ok (.string c.toString)
  | .string text => .ok (.string text)
  | .bytes content => .ok (TreeTemplate.toValue content)
  | .label name => .ok (.string name)
  | .wrapped inner => inner.toValue
  | .variant name contents => do
    pure (.map [(name, ← contents.toValue)])
  | .list items => Value.list <$> toValues items
  | .record fields => Value.map <$> recordEntries [] fields
  | .map calls => Value.map <$> mapEntries [] .none calls
  | .refusal message => fail (.refused message)
termination_by structural serial => serial

/-- Takes each item of a list as a value. -/
def toValues : List Serial → Except Error (List Value)
  | [] => .ok []
  | item :: rest => do
    let value ← item.toValue
    pure (value :: (← toValues rest))
termination_by structural items => items

/-- Adds the fields of a record to entries. -/
def recordEntries (entries : Entries Value) : List (String × Serial) → Except Error (Entries Value)
  | [] => .ok entries
  | (name, field) :: rest => do
    recordEntries (Entries.insert name (← field.toValue) entries) rest
termination_by structural fields => fields

/-- Adds what the calls of a map describe to entries, given the key that has not been used yet. -/
def mapEntries (entries : Entries Value) (pending : Option String) :
    List (Bool × Serial) → Except Error (Entries Value)
  | [] => .ok entries
  | (true, key) :: rest => do
    mapEntries entries (.some (← key.keyText)) rest
  | (false, item) :: rest =>
    match pending with
    | .none => fail .valueBeforeKey
    | .some key => do
      mapEntries (Entries.insert key (← item.toValue) entries) .none rest
termination_by structural calls => calls

end

end Serial

namespace Value

mutual

/-- The calls a value makes when it serializes itself.  A map makes a key call and a value call for
each entry. -/
def toSerial : Value → Serial
  | .none => .unit
  | .bool b => .bool b
  | .integer n => .integer n
  | .float x => .float x
  | .string text => .string text
  | .list items => .list (toSerials items)
  | .map entries => .map (entryCalls entries)
termination_by structural value => value

/-- The calls of each item of a list. -/
def toSerials : List Value → List Serial
  | [] => []
  | item :: rest => item.toSerial :: toSerials rest
termination_by structural items => items

/-- The calls for the entries of a map. -/
def entryCalls : List (String × Value) → List (Bool × Serial)
  | [] => []
  | (key, value) :: rest => (true, .string key) :: (false, value.toSerial) :: entryCalls rest
termination_by structural entries => entries

end

end Value

/-- A tree serializes itself as its data form. -/
def Node.toSerial (node : Node) : Serial :=
  node.toValue.toSerial

/-- A template serializes itself as its root. -/
def Template.toSerial (template : Template) : Serial :=
  template.root.toSerial

end TreeTemplate
