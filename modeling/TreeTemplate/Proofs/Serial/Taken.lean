import TreeTemplate.Proofs.Entries
import TreeTemplate.Proofs.Serial.Calls

/-!
# What data is taken as

`Serial.Denotes` says, form by form, which value data stands for.  Options and wrappers stand for
what is inside.  A map stands for entries in order of their keys, and under each key is the last
value that was given while a key of this text was pending.  Data stands for one value at most.

Data is taken exactly if none of its calls is refused, and then as the value that it stands for.
Otherwise the first call that is refused tells the error (`Serial.toValue_eq_iff`).
-/

namespace TreeTemplate.Serial

/-- The values that a map is given, in call order, each under the spelling of the key that is pending
for it. -/
def settings (before : List (Bool × Serial)) : List (Bool × Serial) → List (String × Serial)
  | [] => []
  | (true, key) :: rest => settings (before ++ [(true, key)]) rest
  | (false, item) :: rest =>
    let behind := settings (before ++ [(false, item)]) rest
    match (pending? before).bind spelling? with
    | .some text => (text, item) :: behind
    | .none => behind

/-- The fields of a record as the keys and values of a map. -/
def fieldParts (fields : List (String × Serial)) : List (Bool × Serial) :=
  fields.flatMap fun field => [(true, .string field.1), (false, field.2)]

/-- Data stands for a value. -/
inductive Denotes : Serial → Value → Prop where
  | none : Denotes .none .none
  | some {inner : Serial} {value : Value} : Denotes inner value → Denotes (.some inner) value
  | unit : Denotes .unit .none
  | bool (b : Bool) : Denotes (.bool b) (.bool b)
  | integer (n : Int64) : Denotes (.integer n) (.integer n)
  | natural {n : UInt64} {m : Int64} : m.toInt = n.toNat → Denotes (.natural n) (.integer m)
  | float32 (x : Float32) : Denotes (.float32 x) (.float x.toFloat)
  | float (x : Float) : Denotes (.float x) (.float x)
  | char (c : Char) : Denotes (.char c) (.string c.toString)
  | string (text : String) : Denotes (.string text) (.string text)
  | bytes (content : List UInt8) :
    Denotes (.bytes content) (.list (content.map fun byte => .integer (Int64.ofNat byte.toNat)))
  | label (name : String) : Denotes (.label name) (.string name)
  | wrapped {inner : Serial} {value : Value} : Denotes inner value → Denotes (.wrapped inner) value
  | variant {name : String} {contents : Serial} {value : Value} :
    Denotes contents value → Denotes (.variant name contents) (.map [(name, value)])
  | list {items : List Serial} {values : List Value} :
    List.Forall₂ Denotes items values → Denotes (.list items) (.list values)
  | record {fields : List (String × Serial)} {value : Value} :
    Denotes (.map (fieldParts fields)) value → Denotes (.record fields) value
  | map {parts : List (Bool × Serial)} {entries : List (String × Value)} :
    Entries.Sorted entries →
    (∀ text, Option.Rel Denotes ((settings [] parts).reverse.lookup text) (entries.lookup text)) →
    Denotes (.map parts) (.map entries)

/-- What the settings of a map are put to, one after the other. -/
def Collects (settings : List (String × Serial)) (entries result : Entries Value) : Prop :=
  ∃ pairs : List (String × Value),
    List.Forall₂ (fun setting pair => setting.1 = pair.1 ∧ Denotes setting.2 pair.2) settings pairs
      ∧ result = pairs.foldl (fun entries pair => Entries.insert pair.1 pair.2 entries) entries

/-- A setting is entered before those behind it: a later one under the same text replaces it. -/
lemma Collects.cons {text : String} {item : Serial} {value : Value}
    {settings : List (String × Serial)} {entries result : Entries Value}
    (denotes : item.Denotes value)
    (behind : Collects settings (Entries.insert text value entries) result) :
    Collects ((text, item) :: settings) entries result := by
  obtain ⟨pairs, related, same⟩ := behind
  exact ⟨(text, value) :: pairs, .cons ⟨rfl, denotes⟩ related, same⟩

/-- The parts of a map are taken one by one.  The text that is kept meanwhile is that of the pending
key. -/
lemma mapEntries_told {parts : List (Bool × Serial)}
    (each : ∀ part ∈ parts,
      Told part.2.Denotes (Call.firstFault? part.2.calls) part.2.toValue)
    (before : List (Bool × Serial)) (pending : Option String)
    (kept : (pending? before).map spelling? = pending.map Option.some) (entries : Entries Value) :
    Told (Collects (settings before parts) entries) (Call.firstFault? (partCalls before parts))
      (mapEntries entries pending parts) := by
  induction parts generalizing before pending entries with
  | nil => exact .result ⟨[], .nil, rfl⟩
  | cons part rest ih =>
    obtain ⟨head, tail⟩ := List.forall_mem_cons.1 each
    obtain ⟨isKey, part⟩ := part
    cases isKey with
    | true =>
      rw [settings, partCalls, Call.firstFault?_append, mapEntries]
      refine (keyText_told part).bind fun text read => ih tail _ _ ?_ entries
      rw [pending?_append_key]
      exact congrArg Option.some read
    | false =>
      cases pending with
      | none =>
        have absent : pending? before = .none := Option.map_eq_none_iff.1 kept
        rw [partCalls, absent, mapEntries]
        exact .refused _
      | some text =>
        -- the fault of the key came up when it was given, so only the value can be at fault
        obtain ⟨key, present, read⟩ := Option.map_eq_some_iff.1 kept
        have under : (pending? before).bind spelling? = .some text := by
          rw [present, Option.bind_some, read]
        have announced : Call.firstFault? (partCalls before ((false, part) :: rest)) =
            (Call.firstFault? part.calls).or
              (Call.firstFault? (partCalls (before ++ [(false, part)]) rest)) := by
          rw [partCalls, present, ← Call.firstFault?_append]
          rfl
        rw [settings, under, announced, mapEntries]
        refine head.bind fun value denotes => ?_
        have behind := ih tail (before ++ [(false, part)]) .none
          (by rw [pending?_append_value]; rfl) (Entries.insert text value entries)
        exact behind.imp fun result => .cons denotes

/-- A map to which its settings are put stands for the entries that come of it. -/
lemma Collects.denotes {parts : List (Bool × Serial)} {result : Entries Value}
    (collects : Collects (settings [] parts) [] result) : Denotes (.map parts) (.map result) := by
  obtain ⟨pairs, related, rfl⟩ := collects
  refine .map (Entries.sorted_ofList pairs) fun text => ?_
  have last := lookup_of_forall₂ (List.rel_reverse related) text
  rwa [← Entries.lookup_ofList pairs] at last

/-- The parts of a record as a map are its fields and strings. -/
lemma forall_mem_fieldParts {P : Serial → Prop} {fields : List (String × Serial)}
    (string : ∀ name, P (.string name)) (each : ∀ field ∈ fields, P field.2) :
    ∀ part ∈ fieldParts fields, P part.2 := by
  intro part among
  obtain ⟨field, inFields, inPair⟩ := List.mem_flatMap.1 among
  obtain rfl | inPair := List.mem_cons.1 inPair
  · exact string field.1
  · obtain rfl := List.mem_singleton.1 inPair
    exact each field inFields

/-- A record is taken as the map of its fields. -/
lemma recordEntries_eq (fields : List (String × Serial)) (entries : Entries Value) :
    recordEntries entries fields = mapEntries entries .none (fieldParts fields) := by
  induction fields generalizing entries with
  | nil => rfl
  | cons field rest ih =>
    refine Eq.trans ?_ (mapEntries_pair field.1 field.2 entries .none (fieldParts rest)).symm
    rw [recordEntries]
    exact congrArg _ (funext fun value => ih _)

/-- No key of a record is refused. -/
lemma firstFault?_fieldCalls (fields : List (String × Serial)) (before : List (Bool × Serial)) :
    Call.firstFault? (partCalls before (fieldParts fields)) =
      Call.firstFault? (fieldCalls fields) := by
  induction fields generalizing before with
  | nil => rfl
  | cons field rest ih =>
    have pair : partCalls before (fieldParts (field :: rest)) =
        .key (.string field.1) :: .entry (pending? (before ++ [(true, .string field.1)])) ::
          (field.2.calls ++ partCalls _ (fieldParts rest)) := rfl
    rw [pair, pending?_append_key, fieldCalls, Call.firstFault?_append, ← ih,
      ← Call.firstFault?_append]
    rfl

/-- Data is taken as the value that it stands for, or refused with the first fault among its calls.
-/
lemma toValue_told (data : Serial) :
    Told data.Denotes (Call.firstFault? data.calls) data.toValue := by
  induction data with
  | none => exact .result .none
  | unit => exact .result .unit
  | bool b => exact .result (.bool b)
  | integer n => exact .result (.integer n)
  | float32 x => exact .result (.float32 x)
  | float x => exact .result (.float x)
  | char c => exact .result (.char c)
  | string text => exact .result (.string text)
  | label name => exact .result (.label name)
  | wide | refusal => exact .refused _
  | some inner ih => exact ih.imp fun value => .some
  | wrapped inner ih => exact ih.imp fun value => .wrapped
  | natural n =>
    have single : Call.firstFault? (calls (.natural n)) = Call.fault? (.value (.natural n)) :=
      List.findSome?_singleton
    rw [single, Call.fault?, toValue]
    by_cases large : 0x8000000000000000 ≤ n.toNat
    · rw [if_pos large, if_neg (Nat.not_lt.2 large)]
      exact .refused _
    · have inRange : n.toNat < 2 ^ 63 := by omega
      rw [if_neg large, if_pos (Nat.not_le.1 large)]
      exact .result (.natural (Int64.toInt_ofNat_of_lt inRange))
  | bytes content =>
    have numbers : content.map TreeTemplate.toValue =
        content.map fun byte => Value.integer (Int64.ofNat byte.toNat) := by
      refine List.map_congr_left fun byte _ => congrArg Value.integer ?_
      rw [← UInt64.ofNat_uInt8ToNat, UInt64.toInt64_ofNat']
    have taken : toValue (.bytes content) =
        .ok (.list (content.map fun byte => Value.integer (Int64.ofNat byte.toNat))) :=
      congrArg (fun items => Except.ok (Value.list items)) numbers
    rw [taken]
    exact .result (.bytes content)
  | variant name contents ih =>
    exact ih.map fun value => .variant
  | list items ih =>
    have row := Told.mapM ih
    rw [← firstFault?_itemCalls] at row
    rw [toValue, toValues_eq_mapM]
    exact row.map fun values => .list
  | map parts ih =>
    have collected := mapEntries_told ih [] .none rfl []
    exact collected.map fun entries collects => collects.denotes
  | record fields ih =>
    -- a record is taken as the map from the names of its fields
    have each := forall_mem_fieldParts
      (P := fun part => Told part.Denotes (Call.firstFault? part.calls) part.toValue)
      (fun name => .result (.string name)) ih
    have collected := mapEntries_told each [] .none rfl []
    rw [firstFault?_fieldCalls] at collected
    rw [toValue, recordEntries_eq]
    exact collected.map fun entries collects => .record collects.denotes

/-- A setting of a map comes from one of its values. -/
lemma mem_of_mem_settings {parts before : List (Bool × Serial)} {setting : String × Serial}
    (among : setting ∈ settings before parts) : (false, setting.2) ∈ parts := by
  induction parts generalizing before with
  | nil => cases among
  | cons part rest ih =>
    obtain ⟨isKey, part⟩ := part
    cases isKey with
    | true =>
      rw [settings] at among
      exact List.mem_cons_of_mem _ (ih among)
    | false =>
      rw [settings] at among
      split at among
      · obtain rfl | behind := List.mem_cons.1 among
        · exact List.mem_cons_self
        · exact List.mem_cons_of_mem _ (ih behind)
      · exact List.mem_cons_of_mem _ (ih among)

/-- The data stands for one value at most. -/
def Settled (data : Serial) : Prop :=
  ∀ value other : Value, data.Denotes value → data.Denotes other → value = other

/-- A map stands for one value at most if its parts do. -/
lemma settled_map {parts : List (Bool × Serial)} (each : ∀ part ∈ parts, part.2.Settled) :
    (map parts).Settled := by
  intro value other first second
  cases first with
  | map sorted found =>
    cases second with
    | map otherSorted otherFound =>
      refine congrArg Value.map (sorted.ext otherSorted fun text => ?_)
      refine option_rel_unique (fun item last => ?_) (found text) (otherFound text)
      have among := List.mem_reverse.1 (mem_of_lookup_eq_some last)
      exact each _ (mem_of_mem_settings among)

/-- All data is settled: entries in order of their keys are determined by what is under each key. -/
theorem settled (data : Serial) : data.Settled := by
  induction data with
  | none | unit | bool | integer | float32 | float | char | string | bytes | label =>
    intro value other first second
    cases first
    cases second
    rfl
  | wide | refusal =>
    intro value other first
    cases first
  | natural n =>
    intro value other first second
    cases first with
    | natural same =>
      cases second with
      | natural otherSame =>
        exact congrArg Value.integer (Int64.toInt_inj.1 (same.trans otherSame.symm))
  | some inner ih =>
    intro value other first second
    cases first with
    | some first =>
      cases second with
      | some second => exact ih value other first second
  | wrapped inner ih =>
    intro value other first second
    cases first with
    | wrapped first =>
      cases second with
      | wrapped second => exact ih value other first second
  | variant name contents ih =>
    intro value other first second
    cases first with
    | variant first =>
      cases second with
      | variant second => rw [ih _ _ first second]
  | list items ih =>
    intro value other first second
    cases first with
    | list first =>
      cases second with
      | list second => exact congrArg Value.list (forall₂_unique ih first second)
  | record fields ih =>
    have string : ∀ name, Settled (.string name) := by
      intro name value other first second
      cases first
      cases second
      rfl
    intro value other first second
    cases first with
    | record first =>
      cases second with
      | record second =>
        exact settled_map (forall_mem_fieldParts string ih) value other first second
  | map parts ih => exact settled_map ih

/-- Data is taken exactly if none of its calls is refused, and then as the one value that it stands
for.  Otherwise there is the error of the first call that is refused, and no value. -/
theorem toValue_eq_iff (data : Serial) :
    (∀ error, data.toValue = .error error ↔
        ∃ cause, data.calls.findSome? Call.fault? = .some cause
          ∧ error = ⟨cause, [], .none⟩ ∧ error.kind = .serialize)
      ∧ ∀ value, data.toValue = .ok value ↔
        (∀ call ∈ data.calls, call.fault? = .none) ∧ data.Denotes value := by
  have told := toValue_told data
  constructor
  · intro error
    rw [told.eq_error_iff]
    refine exists_congr fun cause => and_congr_right fun first => ?_
    obtain ⟨call, -, fault⟩ := List.exists_of_findSome?_eq_some first
    constructor
    · rintro rfl
      exact ⟨rfl, Call.kind_of_fault? fault⟩
    · exact And.left
  · intro value
    rw [← List.findSome?_eq_none_iff]
    exact told.eq_ok_iff data.settled

/-- Of two keys in a row the second is used, keys of the same text are one key whatever they are
made of, and a key behind all values is dropped.  The first fault is told, not the worst. -/
theorem toValue_eq_iff_of_replaced_keys :
    let data : Serial :=
      .map [(true, .string "a"), (true, .integer 1), (false, .bool true),
        (true, .wrapped (.char '1')), (false, .some (.label "last")), (true, .string "b")]
    let refused : Serial :=
      .record [("id", .map [(true, .natural 18446744073709551615), (false, .wide true)]),
        ("size", .natural 18446744073709551615)]
    (∀ call ∈ data.calls, call.fault? = .none)
      ∧ data.Denotes (.map [("1", .string "last")])
      ∧ refused.calls.findSome? Call.fault? = .some (.wideInteger true) := by
  intro data refused
  obtain ⟨faultless, denotes⟩ := ((toValue_eq_iff data).2 (.map [("1", .string "last")])).1 rfl
  obtain ⟨cause, first, same, -⟩ :=
    ((toValue_eq_iff refused).1 ⟨.wideInteger true, [], .none⟩).1 rfl
  refine ⟨faultless, denotes, ?_⟩
  rw [first, ← (Error.mk.inj same).1]

end TreeTemplate.Serial
