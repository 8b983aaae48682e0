import TreeTemplate.Proofs.Serial

/-!
# Calls of data

The calls that data makes when it serializes itself, as one list in call order, and for each of them
whether it is refused and why.  Data in the place of a key makes other calls than data in the place
of a value: only its wrappers are looked into.  A value of a map is announced by a call of its own,
which is refused if no key is pending.

To take data fails with the first fault among its calls (`Told`), and this is so for keys, for rows,
and for whatever is made of computations that each end in this way.
-/

namespace TreeTemplate.Serial

/-- A call that data makes. -/
inductive Call where
  /-- Data is described in the place of a value. -/
  | value (data : Serial)
  /-- Data is described in the place of a key. -/
  | key (data : Serial)
  /-- A map is given a value, and this key is pending for it, or none is. -/
  | entry (pending : Option Serial)

namespace Call

/-- Why a call is refused, if it is.  No integer of 128 bits is taken, and a natural number is taken
as a value if it is an integer of 64 bits.  Keys are integers, characters, strings, names of
variants and wrappers. -/
def fault? : Call → Option Cause
  | .value (.wide signed) | .key (.wide signed) => .some (.wideInteger signed)
  | .value (.refusal message) | .key (.refusal message) => .some (.refused message)
  | .value (.natural n) => if 0x8000000000000000 ≤ n.toNat then .some .integerRange else .none
  | .value _ => .none
  | .key (.integer _) | .key (.natural _) | .key (.char _) | .key (.string _) | .key (.label _)
  | .key (.wrapped _) => .none
  | .key _ => .some .keyNotString
  | .entry .none => .some .valueBeforeKey
  | .entry (.some _) => .none

/-- The first fault among calls. -/
def firstFault? (calls : List Call) : Option Cause :=
  calls.findSome? fault?

/-- Every fault is one of data that has no value. -/
lemma kind_of_fault? {call : Call} {cause : Cause} (fault : call.fault? = .some cause) :
    cause.kind = .serialize := by
  cases call with
  | value data =>
    cases data with
    | natural n =>
      obtain ⟨-, same⟩ := (Option.ite_none_right_eq_some).1 fault
      rw [← Option.some.inj same]
      rfl
    | wide | refusal =>
      cases fault
      rfl
    | none | some | unit | bool | integer | float32 | float | char | string | bytes | label
    | wrapped | variant | list | record | map => cases fault
  | key data =>
    cases data with
    | integer | natural | char | string | label | wrapped => cases fault
    | none | some | unit | bool | wide | float32 | float | bytes | variant | list | record | map
    | refusal =>
      cases fault
      rfl
  | entry pending =>
    cases pending with
    | none =>
      cases fault
      rfl
    | some key => cases fault

/-- The first fault of calls put together is that of the first, or else that of the rest. -/
lemma firstFault?_append (calls more : List Call) :
    firstFault? (calls ++ more) = (firstFault? calls).or (firstFault? more) :=
  List.findSome?_append

end Call

/-- The calls of data in the place of a key. -/
def keyCalls : Serial → List Call
  | .wrapped inner => .key (.wrapped inner) :: inner.keyCalls
  | data => [.key data]

/-- The key that is pending after calls of a map.  A key takes the place of one that has not been
used, and a value uses up the key before it. -/
def pending? (calls : List (Bool × Serial)) : Option Serial :=
  match calls.getLast? with
  | .some (true, key) => .some key
  | _ => .none

mutual

/-- The calls of data, in call order and as if none was refused. -/
def calls : Serial → List Call
  | .some inner => .value (.some inner) :: inner.calls
  | .wrapped inner => .value (.wrapped inner) :: inner.calls
  | .variant name contents => .value (.variant name contents) :: contents.calls
  | .list items => .value (.list items) :: itemCalls items
  | .record fields => .value (.record fields) :: fieldCalls fields
  | .map parts => .value (.map parts) :: partCalls [] parts
  | data => [.value data]
termination_by structural data => data

/-- The calls of the items of a list. -/
def itemCalls : List Serial → List Call
  | [] => []
  | item :: rest => item.calls ++ itemCalls rest
termination_by structural items => items

/-- The calls of the fields of a record. -/
def fieldCalls : List (String × Serial) → List Call
  | [] => []
  | (_, field) :: rest => field.calls ++ fieldCalls rest
termination_by structural fields => fields

/-- The calls of the keys and values of a map, given the keys and values before them. -/
def partCalls (before : List (Bool × Serial)) : List (Bool × Serial) → List Call
  | [] => []
  | (true, key) :: rest => key.keyCalls ++ partCalls (before ++ [(true, key)]) rest
  | (false, item) :: rest =>
    .entry (pending? before) :: item.calls ++ partCalls (before ++ [(false, item)]) rest
termination_by structural parts => parts

end

/-- A key that was just given waits for its value. -/
@[simp]
lemma pending?_append_key (before : List (Bool × Serial)) (key : Serial) :
    pending? (before ++ [(true, key)]) = .some key := by
  rw [pending?, List.getLast?_concat]

/-- No key waits behind a value. -/
@[simp]
lemma pending?_append_value (before : List (Bool × Serial)) (item : Serial) :
    pending? (before ++ [(false, item)]) = .none := by
  rw [pending?, List.getLast?_concat]

/-- The first fault among the items of a list is that of the first item that has any. -/
lemma firstFault?_itemCalls (items : List Serial) :
    Call.firstFault? (itemCalls items) =
      items.findSome? fun item => Call.firstFault? item.calls := by
  have row : itemCalls items = items.flatMap calls := by
    induction items with
    | nil => rfl
    | cons item rest ih => rw [itemCalls, ih, List.flatMap_cons]
  rw [row, Call.firstFault?, findSome?_flatMap]
  rfl

/-- How a computation ends by the first fault among its calls: with that fault, or with a result
that has a property if there is none. -/
inductive Told {α : Type} (P : α → Prop) : Option Cause → Except Error α → Prop where
  | refused (cause : Cause) : Told P (.some cause) (fail cause)
  | result {a : α} : P a → Told P .none (.ok a)

namespace Told

variable {α β : Type} {P : α → Prop} {Q : β → Prop} {first second : Option Cause}
  {x : Except Error α}

/-- Less may be said of the result that is told. -/
lemma imp {P' : α → Prop} (h : Told P first x) (weaker : ∀ a, P a → P' a) : Told P' first x := by
  cases h with
  | refused cause => exact .refused cause
  | result holds => exact .result (weaker _ holds)

/-- A mapped result is told by the images. -/
lemma map {f : α → β} (h : Told P first x) (each : ∀ a, P a → Q (f a)) :
    Told Q first (f <$> x) := by
  cases h with
  | refused cause => exact .refused cause
  | result holds => exact .result (each _ holds)

/-- The calls of the second computation come behind those of the first. -/
lemma bind {f : α → Except Error β} (h : Told P first x)
    (each : ∀ a, P a → Told Q second (f a)) : Told Q (first.or second) (x >>= f) := by
  cases h with
  | refused cause => exact .refused cause
  | result holds => exact each _ holds

/-- The calls of a walk over a list are those of the items in order. -/
lemma mapM {S : α → β → Prop} {fault : α → Option Cause} {f : α → Except Error β} {as : List α}
    (each : ∀ a ∈ as, Told (S a) (fault a) (f a)) :
    Told (List.Forall₂ S as) (as.findSome? fault) (as.mapM f) := by
  induction as with
  | nil => exact .result .nil
  | cons a as ih =>
    obtain ⟨head, tail⟩ := List.forall_mem_cons.1 each
    have split : (a :: as).findSome? fault = (fault a).or (as.findSome? fault) := by
      rw [List.findSome?_cons]
      cases fault a with
      | none => rfl
      | some cause => rfl
    rw [List.mapM_cons, split]
    refine head.bind fun b holds => ?_
    rw [bind_pure_comp]
    exact (ih tail).map fun bs rest => .cons holds rest

/-- What is told to fail does so with the first fault, and with no other. -/
lemma eq_error_iff (h : Told P first x) {error : Error} :
    x = .error error ↔ ∃ cause, first = .some cause ∧ error = ⟨cause, [], .none⟩ := by
  cases h with
  | refused cause => simp [fail, eq_comm]
  | result => simp

/-- What is told to succeed has the one result that is told, where nothing is at fault. -/
lemma eq_ok_iff (h : Told P first x) (unique : ∀ a b, P a → P b → a = b) {a : α} :
    x = .ok a ↔ first = .none ∧ P a := by
  cases h with
  | refused cause => simp [fail]
  | result holds =>
    constructor
    · rintro ⟨⟩
      exact ⟨rfl, holds⟩
    · rintro ⟨-, other⟩
      rw [unique _ _ holds other]

end Told

/-- How data is spelled in the place of a key: integers in decimal digits, with a sign if negative,
characters, strings and names of variants as they are, and wrappers like what is inside. -/
def spelling? : Serial → Option String
  | .integer n => .some (toString n.toInt)
  | .natural n => .some (toString n.toNat)
  | .char c => .some (String.singleton c)
  | .string text => .some text
  | .label name => .some name
  | .wrapped inner => inner.spelling?
  | _ => .none

/-- Data is taken as a key, the way it is spelled there, if none of its calls in this place is
refused. -/
lemma keyText_told (data : Serial) :
    Told (fun text => data.spelling? = .some text) (Call.firstFault? data.keyCalls)
      data.keyText := by
  induction data with
  | wrapped inner ih => exact ih
  | integer | natural | char | string | label => exact .result rfl
  | none | some | unit | bool | wide | float32 | float | bytes | variant | list | record | map
  | refusal => exact .refused _

end TreeTemplate.Serial
