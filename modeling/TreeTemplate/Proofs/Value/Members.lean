import TreeTemplate.Path.Resolve
import TreeTemplate.Proofs.Entries
import TreeTemplate.Proofs.Helper.Builtin

/-!
# Members of values

The members of a value are what `each` goes through: the items of a list and the values of a map, in
order.  Each of them is also found by a key (`Value.forall₂_memberKeys`).  For an item this is its
index written out in decimal, since these digits are read back as the same number.  For an entry of a
map it is the key of the entry, since keys in strictly increasing order are all different, and this is
so in whatever is found in a well-formed context (`Value.WellFormed.resolve`).
-/

namespace TreeTemplate

/-- Digits are read as numbers are. -/
lemma Text.digitsValue_eq_ofDigitChars (digits : List Char) :
    digitsValue digits = Nat.ofDigitChars 10 digits 0 := by
  rw [digitsValue, Nat.ofDigitChars_eq_foldl]
  refine congrArg (fun step => digits.foldl step 0) (funext fun value => funext fun digit => ?_)
  rw [Nat.mul_comm]
  rfl

/-- A number is written with digits. -/
lemma Text.isDigits_toString (n : Nat) : isDigits (toString n) := by
  have chars : (toString n).toList = Nat.toDigits 10 n := by
    rw [Nat.toString_eq_ofList_toDigits, String.toList_ofList]
  have nonempty : toString n ≠ "" := by
    intro empty
    rw [empty] at chars
    exact Nat.toDigits_ne_nil chars.symm
  rw [isDigits, chars, Bool.and_eq_true, bne_iff_ne, List.all_eq_true]
  exact ⟨nonempty, fun c among => Nat.isDigit_of_mem_toDigits (by decide) (by decide) among⟩

/-- The digits of a number are read back as that number. -/
lemma Text.index?_toString (n : Nat) : index? (toString n) = some n := by
  rw [index?, if_pos (isDigits_toString n), digitsValue_eq_ofDigitChars,
    Nat.toString_eq_ofList_toDigits, String.toList_ofList,
    Nat.ofDigitChars_toDigits (by decide) (by decide)]

/-- A number is written as a segment of a path. -/
lemma Path.isSegment_toString (n : Nat) : isSegment (toString n) := by
  rw [isSegment, Text.isDigits_toString, Bool.or_true]

/-- Every item of a list is at its index. -/
lemma forall₂_range {α : Type} (items : List α) :
    List.Forall₂ (fun (index : Nat) item => items[index]? = some item) (List.range items.length)
      items := by
  refine List.forall₂_iff_get.2 ⟨List.length_range, fun index inRange inItems => ?_⟩
  rw [List.get_eq_getElem, List.getElem_range]
  exact List.getElem?_eq_getElem inItems

namespace Value

/-- The keys by which the members of a value are found: the indices of a list, and the keys of a
map. -/
def memberKeys : Value → List String
  | .list items => (List.range items.length).map toString
  | .map entries => Entries.keys entries
  | _ => []

/-- A list of values is well-formed exactly if each value is. -/
lemma allWellFormed_iff {items : List Value} :
    AllWellFormed items ↔ ∀ item ∈ items, item.WellFormed := by
  induction items with
  | nil => simp [AllWellFormed]
  | cons item rest ih => rw [AllWellFormed, ih, List.forall_mem_cons]

/-- Entries are well-formed exactly if each value under them is. -/
lemma entriesWellFormed_iff {entries : List (String × Value)} :
    EntriesWellFormed entries ↔ ∀ entry ∈ entries, entry.2.WellFormed := by
  induction entries with
  | nil => simp [EntriesWellFormed]
  | cons entry rest ih =>
    obtain ⟨key, value⟩ := entry
    rw [EntriesWellFormed, ih, List.forall_mem_cons]

/-- A member of a well-formed value is well-formed. -/
lemma WellFormed.member? {value found : Value} {segment : String} (wf : value.WellFormed)
    (finds : value.member? segment = some found) : found.WellFormed := by
  cases value with
  | list items =>
    obtain ⟨index, -, item⟩ := Option.bind_eq_some_iff.1 finds
    rw [WellFormed, allWellFormed_iff] at wf
    exact wf found (List.mem_of_getElem? item)
  | map entries =>
    rw [WellFormed, entriesWellFormed_iff] at wf
    exact wf.2 _ (mem_of_lookup_eq_some finds)
  | none | bool | integer | float | string => cases finds

/-- What segments lead to from a well-formed value is well-formed. -/
lemma WellFormed.follow? {value found : Value} {segments : List String} (wf : value.WellFormed)
    (finds : value.follow? segments = some found) : found.WellFormed := by
  induction segments generalizing value with
  | nil =>
    cases finds
    exact wf
  | cons segment rest ih =>
    obtain ⟨inner, first, behind⟩ := Option.bind_eq_some_iff.1 finds
    exact ih (wf.member? first) behind

/-- What a path leads to in well-formed contexts is well-formed. -/
lemma WellFormed.resolve {current top found : Value} {path : Path} (wfCurrent : current.WellFormed)
    (wfTop : top.WellFormed) (finds : path.resolve current top = some found) :
    found.WellFormed := by
  cases path with
  | this =>
    cases finds
    exact wfCurrent
  | current segments => exact wfCurrent.follow? finds
  | parent segments => exact wfTop.follow? finds

/-- The members of a value are what its keys find, in order. -/
theorem forall₂_memberKeys {value : Value} (wf : value.WellFormed) (current : Value) :
    List.Forall₂ (fun key member => value.member? key = some member) value.memberKeys
      (Builtin.each.contexts value current) := by
  cases value with
  | list items =>
    refine List.forall₂_map_left_iff.2 ((forall₂_range items).imp fun index item found => ?_)
    rw [Value.member?, Text.index?_toString]
    exact found
  | map entries =>
    refine List.forall₂_map_left_iff.2 (List.forall₂_map_right_iff.2 (List.forall₂_same.2 ?_))
    exact lookup_of_sorted wf.1
  | none | bool | integer | float | string => exact .nil

end Value

end TreeTemplate
