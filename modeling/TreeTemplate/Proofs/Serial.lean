import TreeTemplate.Proofs.Outcome
import TreeTemplate.Serial

/-!
# Data that has no value

Data is taken as a value part by part, so what goes wrong with a whole went wrong with a part of it.
All that can go wrong with data is of one kind, and it is told before any template is looked at, so
the error names no place in a tree and no template (`Serial.isRefusal_of_toValue`).

Data is nested in lists and pairs, and its induction is stated here with what holds of the parts as
a statement on the members of those lists.
-/

namespace TreeTemplate

/-- An error of data that has no value.  It belongs to no place in a tree and to no template. -/
structure Error.IsRefusal (error : Error) : Prop where
  kind : error.kind = .serialize
  trail : error.trail = []
  template : error.template = none

/-- A failure with a cause of serialization is a refusal. -/
lemma isRefusal_of_fail {α : Type} {cause : Cause} {error : Error} (kind : cause.kind = .serialize)
    (h : (fail cause : Except Error α) = .error error) : error.IsRefusal := by
  cases h
  exact ⟨kind, rfl, rfl⟩

namespace Serial

/-- Induction on data: what holds of data may be shown from the parts. -/
@[induction_eliminator]
theorem induction {motive : Serial → Prop}
    (none : motive .none)
    (some : ∀ inner, motive inner → motive (.some inner))
    (unit : motive .unit)
    (bool : ∀ b, motive (.bool b))
    (integer : ∀ n, motive (.integer n))
    (natural : ∀ n, motive (.natural n))
    (wide : ∀ signed, motive (.wide signed))
    (float32 : ∀ x, motive (.float32 x))
    (float : ∀ x, motive (.float x))
    (char : ∀ c, motive (.char c))
    (string : ∀ text, motive (.string text))
    (bytes : ∀ content, motive (.bytes content))
    (label : ∀ name, motive (.label name))
    (wrapped : ∀ inner, motive inner → motive (.wrapped inner))
    (variant : ∀ name contents, motive contents → motive (.variant name contents))
    (list : ∀ items, (∀ item ∈ items, motive item) → motive (.list items))
    (record : ∀ fields, (∀ field ∈ fields, motive field.2) → motive (.record fields))
    (map : ∀ calls, (∀ call ∈ calls, motive call.2) → motive (.map calls))
    (refusal : ∀ message, motive (.refusal message))
    (data : Serial) : motive data :=
  Serial.rec (motive_1 := motive) (motive_2 := fun items => ∀ item ∈ items, motive item)
    (motive_3 := fun fields => ∀ field ∈ fields, motive field.2)
    (motive_4 := fun calls => ∀ call ∈ calls, motive call.2)
    (motive_5 := fun field => motive field.2) (motive_6 := fun call => motive call.2)
    none some unit bool integer natural wide float32 float char string bytes label wrapped variant
    list record map refusal
    (List.forall_mem_nil _) (fun _ _ head tail => List.forall_mem_cons.2 ⟨head, tail⟩)
    (List.forall_mem_nil _) (fun _ _ head tail => List.forall_mem_cons.2 ⟨head, tail⟩)
    (List.forall_mem_nil _) (fun _ _ head tail => List.forall_mem_cons.2 ⟨head, tail⟩)
    (fun _ _ part => part) (fun _ _ part => part) data

/-- Data that is no key fails as data without a value does. -/
lemma isRefusal_of_keyText {data : Serial} {error : Error} (h : data.keyText = .error error) :
    error.IsRefusal := by
  induction data with
  | wrapped inner ih => exact ih h
  | integer | natural | char | string | label => cases h
  | none | some | unit | bool | wide | float32 | float | bytes | variant | list | record | map
  | refusal => exact isRefusal_of_fail rfl h

/-- The items of a list are taken as values one by one. -/
lemma toValues_eq_mapM (items : List Serial) : toValues items = items.mapM toValue := by
  induction items with
  | nil => rfl
  | cons item rest ih => rw [toValues, ih, List.mapM_cons]

/-- A key and a value behind it add one entry, whichever key was left before. -/
lemma mapEntries_pair (key : String) (item : Serial) (entries : Entries Value)
    (pending : Option String) (rest : List (Bool × Serial)) :
    mapEntries entries pending ((true, .string key) :: (false, item) :: rest) =
      item.toValue >>= fun value => mapEntries (Entries.insert key value entries) .none rest := rfl

section

variable {error : Error} {entries : Entries Value}

/-- A record fails with a refusal if each of its fields does. -/
lemma isRefusal_of_recordEntries {fields : List (String × Serial)}
    (each : ∀ field ∈ fields, ∀ {error}, field.2.toValue = .error error → error.IsRefusal)
    (h : recordEntries entries fields = .error error) : error.IsRefusal := by
  induction fields generalizing entries with
  | nil => cases h
  | cons field rest ih =>
    obtain ⟨head, tail⟩ := List.forall_mem_cons.1 each
    obtain first | ⟨value, -, behind⟩ := bind_eq_error_iff.1 h
    · exact head first
    · exact ih tail behind

/-- A map fails with a refusal if each of its keys and values does. -/
lemma isRefusal_of_mapEntries {calls : List (Bool × Serial)} {pending : Option String}
    (each : ∀ call ∈ calls, ∀ {error}, call.2.toValue = .error error → error.IsRefusal)
    (h : mapEntries entries pending calls = .error error) : error.IsRefusal := by
  induction calls generalizing entries pending with
  | nil => cases h
  | cons call rest ih =>
    obtain ⟨head, tail⟩ := List.forall_mem_cons.1 each
    obtain ⟨isKey, part⟩ := call
    cases isKey with
    | true =>
      obtain key | ⟨text, -, behind⟩ := bind_eq_error_iff.1 h
      · exact isRefusal_of_keyText key
      · exact ih tail behind
    | false =>
      cases pending with
      | none => exact isRefusal_of_fail rfl h
      | some key =>
        obtain value | ⟨value, -, behind⟩ := bind_eq_error_iff.1 h
        · exact head value
        · exact ih tail behind

end

/-- Data that has no value is told by an error of one kind, without a place and a template. -/
theorem isRefusal_of_toValue {data : Serial} {error : Error} (h : data.toValue = .error error) :
    error.IsRefusal := by
  induction data generalizing error with
  | some inner ih | wrapped inner ih => exact ih h
  | natural n =>
    rw [toValue] at h
    split at h
    · cases h
    · exact isRefusal_of_fail rfl h
  | variant name contents ih =>
    obtain inside | ⟨value, -, result⟩ := bind_eq_error_iff.1 h
    · exact ih inside
    · cases result
  | list items ih =>
    rw [toValue, toValues_eq_mapM, map_eq_error_iff] at h
    obtain ⟨item, among, fails⟩ := exists_of_mapM_eq_error h
    exact ih item among fails
  | record fields ih => exact isRefusal_of_recordEntries ih (map_eq_error_iff.1 h)
  | map calls ih => exact isRefusal_of_mapEntries ih (map_eq_error_iff.1 h)
  | wide | refusal => exact isRefusal_of_fail rfl h
  | none | unit | bool | integer | float32 | float | char | string | bytes | label => cases h

end Serial

end TreeTemplate
