/-!
# Entries

Maps from names to things are lists of pairs in increasing order of their keys, by code point.  That
order is what every walk over attributes, helpers, templates and map values follows.

`Entries.insert` keeps the order and replaces an earlier entry of the same key, so the entries built
from a list of pairs hold the last pair of each key (`Entries.lookup_insert`).
-/

namespace TreeTemplate

universe u

/-- Pairs of a key and a thing, meant to be in strictly increasing order of keys. -/
abbrev Entries (α : Type u) := List (String × α)

namespace Entries

variable {α : Type u}

/-- Every key is smaller than those after it. -/
def Sorted (entries : Entries α) : Prop :=
  (entries.map Prod.fst).Pairwise (· < ·)

/-- Puts a thing under a key, in place of the one that is there. -/
def insert (key : String) (thing : α) : Entries α → Entries α
  | [] => [(key, thing)]
  | (k, x) :: rest =>
    if key < k then (key, thing) :: (k, x) :: rest
    else if key = k then (key, thing) :: rest
    else (k, x) :: insert key thing rest

/-- Collects pairs, a later pair taking the place of an earlier one of the same key. -/
def ofList (pairs : List (String × α)) : Entries α :=
  pairs.foldl (fun entries pair => insert pair.1 pair.2 entries) []

/-- The keys, in order. -/
def keys (entries : Entries α) : List String :=
  entries.map Prod.fst

/-- The keys after an insertion are the new key and those before. -/
theorem mem_keys_insert {key k : String} {thing : α} {entries : Entries α} :
    k ∈ (insert key thing entries).map Prod.fst ↔ k = key ∨ k ∈ entries.map Prod.fst := by
  induction entries with
  | nil => simp [insert]
  | cons entry rest ih =>
    obtain ⟨head, x⟩ := entry
    by_cases lt : key < head
    · simp [insert, lt]
    · by_cases eq : key = head
      · subst eq
        simp [insert]
      · rw [insert, if_neg lt, if_neg eq, List.map_cons, List.mem_cons, ih, List.map_cons,
          List.mem_cons]
        exact or_left_comm

/-- An entry after an insertion is the new one or was there before. -/
theorem mem_of_mem_insert {key : String} {thing : α} {entries : Entries α} {entry : String × α}
    (member : entry ∈ insert key thing entries) :
    entry = (key, thing) ∨ entry ∈ entries := by
  induction entries with
  | nil => exact .inl (List.mem_singleton.1 member)
  | cons first rest ih =>
    obtain ⟨head, x⟩ := first
    unfold insert at member
    split at member
    · exact List.mem_cons.1 member
    · split at member
      · obtain rfl | behind := List.mem_cons.1 member
        · exact .inl rfl
        · exact .inr (List.mem_cons_of_mem _ behind)
      · obtain rfl | behind := List.mem_cons.1 member
        · exact .inr List.mem_cons_self
        · exact (ih behind).imp_right (List.mem_cons_of_mem _)

/-- An insertion keeps the keys in order. -/
theorem Sorted.insert {key : String} {thing : α} {entries : Entries α} (sorted : entries.Sorted) :
    Sorted (insert key thing entries) := by
  induction entries with
  | nil => simp [Sorted, Entries.insert]
  | cons entry rest ih =>
    obtain ⟨head, x⟩ := entry
    obtain ⟨smaller, rest_sorted⟩ := List.pairwise_cons.1 sorted
    by_cases lt : key < head
    · rw [Entries.insert, if_pos lt]
      refine List.pairwise_cons.2 ⟨?_, sorted⟩
      intro k member
      cases member with
      | head => exact lt
      | tail _ member => exact String.lt_trans lt (smaller k member)
    · by_cases eq : key = head
      · subst eq
        rw [Entries.insert, if_neg lt, if_pos rfl]
        exact List.pairwise_cons.2 ⟨smaller, rest_sorted⟩
      · rw [Entries.insert, if_neg lt, if_neg eq]
        refine List.pairwise_cons.2 ⟨?_, ih rest_sorted⟩
        intro k member
        rcases mem_keys_insert.1 member with rfl | member
        · have le := String.not_lt.1 lt
          exact String.not_le.1 fun ge => eq (String.le_antisymm ge le)
        · exact smaller k member

/-- Collected pairs are in order. -/
theorem sorted_ofList (pairs : List (String × α)) : Sorted (ofList pairs) := by
  suffices h : ∀ entries : Entries α, entries.Sorted →
      Sorted (pairs.foldl (fun entries pair => insert pair.1 pair.2 entries) entries) from
    h [] List.Pairwise.nil
  induction pairs with
  | nil => exact fun _ sorted => sorted
  | cons pair rest ih => exact fun _ sorted => ih _ sorted.insert

/-- A look-up compares with the first key and goes on if that is another. -/
theorem lookup_cons {key k : String} {thing : α} {entries : Entries α} :
    List.lookup k ((key, thing) :: entries) =
      if k = key then some thing else entries.lookup k := by
  by_cases eq : k = key
  · subst eq
    rw [List.lookup_cons_self, if_pos rfl]
  · rw [List.lookup_cons, beq_eq_false_iff_ne.2 eq, if_neg eq]

/-- After an insertion its key leads to the new thing, and every other key to what it led to. -/
theorem lookup_insert {key k : String} {thing : α} {entries : Entries α} :
    (insert key thing entries).lookup k = if k = key then some thing else entries.lookup k := by
  induction entries with
  | nil => exact lookup_cons
  | cons entry rest ih =>
    obtain ⟨head, x⟩ := entry
    by_cases lt : key < head
    · rw [insert, if_pos lt, lookup_cons]
    · by_cases same : key = head
      · subst same
        rw [insert, if_neg lt, if_pos rfl, lookup_cons, lookup_cons]
        by_cases eq : k = key <;> simp [eq]
      · rw [insert, if_neg lt, if_neg same, lookup_cons, lookup_cons, ih]
        by_cases eq : k = head
        · have ne : k ≠ key := fun h => same (h.symm.trans eq)
          rw [if_pos eq, if_neg ne, if_pos eq]
        · rw [if_neg eq, if_neg eq]

end Entries

end TreeTemplate
