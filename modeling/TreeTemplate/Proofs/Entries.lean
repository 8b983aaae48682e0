import TreeTemplate.Entries
import TreeTemplate.Proofs.Sequence

/-!
# Entries by their look-ups

Entries in order are told by what their keys lead to (`Entries.Sorted.ext`), so two ways of making
them are compared key by key.  Of collected pairs each key leads to the last pair under it, and to
collect entries that are in order already gives them back.
-/

namespace TreeTemplate

/-- In entries with keys in order every key leads to its entry. -/
lemma lookup_of_sorted {α : Type} {entries : Entries α} (sorted : entries.Sorted) :
    ∀ entry ∈ entries, entries.lookup entry.1 = some entry.2 := by
  induction entries with
  | nil => exact List.forall_mem_nil _
  | cons first rest ih =>
    obtain ⟨smaller, restSorted⟩ := List.pairwise_cons.1 sorted
    refine List.forall_mem_cons.2 ⟨List.lookup_cons_self, fun entry among => ?_⟩
    have other : entry.1 ≠ first.1 := (String.ne_of_lt (smaller _ (List.mem_map_of_mem among))).symm
    rw [Entries.lookup_cons, if_neg other]
    exact ih restSorted entry among

namespace Entries

variable {α : Type} {entries other : Entries α}

/-- The entries are what look-ups find, if the keys are in order. -/
lemma Sorted.mem_iff (sorted : entries.Sorted) {entry : String × α} :
    entry ∈ entries ↔ entries.lookup entry.1 = some entry.2 :=
  ⟨lookup_of_sorted sorted entry, mem_of_lookup_eq_some⟩

/-- Entries in order are equal if every key leads to the same in both. -/
theorem Sorted.ext (sorted : entries.Sorted) (otherSorted : other.Sorted)
    (same : ∀ key, entries.lookup key = other.lookup key) : entries = other := by
  have byKey : ∀ {entries : Entries α}, entries.Sorted →
      List.Pairwise (fun a b : String × α => a.1 < b.1) entries := List.pairwise_map.1
  have nodup : ∀ {entries : Entries α}, entries.Sorted → entries.Nodup := fun sorted =>
    (byKey sorted).imp fun smaller eq => String.ne_of_lt smaller (congrArg Prod.fst eq)
  have perm : entries.Perm other := by
    refine (List.perm_ext_iff_of_nodup (nodup sorted) (nodup otherSorted)).2 fun entry => ?_
    rw [sorted.mem_iff, otherSorted.mem_iff, same]
  refine perm.eq_of_pairwise (fun a b _ _ smaller larger => ?_) (byKey sorted) (byKey otherSorted)
  exact absurd (String.lt_trans smaller larger) (String.lt_irrefl _)

/-- Different keys may be set in any order. -/
theorem Sorted.insert_comm (sorted : entries.Sorted) {key k : String} (apart : key ≠ k)
    (thing x : α) :
    Entries.insert k x (Entries.insert key thing entries) =
      Entries.insert key thing (Entries.insert k x entries) := by
  refine sorted.insert.insert.ext sorted.insert.insert fun name => ?_
  rw [lookup_insert, lookup_insert, lookup_insert, lookup_insert]
  by_cases same : name = k
  · have other : name ≠ key := fun eq => apart (eq.symm.trans same)
    rw [if_pos same, if_neg other, if_pos same]
  · rw [if_neg same, if_neg same]

/-- A key leads to something if it is among the keys. -/
lemma isSome_lookup_iff {key : String} :
    (entries.lookup key).isSome ↔ key ∈ entries.map Prod.fst := by
  rw [List.lookup_isSome_iff, List.mem_map]
  simp only [beq_iff_eq, eq_comm (a := key)]

/-- After pairs were put under their keys one by one, a key leads to the last pair under it, and
where there is none to what was there before. -/
lemma lookup_foldl_insert (pairs : List (String × α)) (entries : Entries α) (key : String) :
    (pairs.foldl (fun entries pair => insert pair.1 pair.2 entries) entries).lookup key =
      (pairs.reverse.lookup key).or (entries.lookup key) := by
  induction pairs generalizing entries with
  | nil => rfl
  | cons pair rest ih =>
    rw [List.foldl_cons, ih, lookup_insert, List.reverse_cons, List.lookup_append, lookup_cons,
      Option.or_assoc]
    congr 1
    split
    · rfl
    · rfl

/-- Of collected pairs a key leads to the last one under it. -/
theorem lookup_ofList (pairs : List (String × α)) (key : String) :
    (ofList pairs).lookup key = pairs.reverse.lookup key := by
  rw [ofList, lookup_foldl_insert, List.lookup_nil, Option.or_none]

/-- Where the keys are in order, the first and the last entry under a key are the same. -/
lemma Sorted.lookup_reverse (sorted : entries.Sorted) (key : String) :
    entries.reverse.lookup key = entries.lookup key := by
  cases found : entries.reverse.lookup key with
  | none =>
    rw [List.lookup_eq_none_iff] at found
    refine (List.lookup_eq_none_iff.2 fun entry among => ?_).symm
    exact found entry (List.mem_reverse.2 among)
  | some thing =>
    have member := List.mem_reverse.1 (mem_of_lookup_eq_some found)
    exact (sorted.mem_iff.1 member).symm

/-- Entries in order are collected to themselves. -/
theorem ofList_of_sorted (sorted : entries.Sorted) : ofList entries = entries := by
  refine (sorted_ofList entries).ext sorted fun key => ?_
  rw [lookup_ofList, sorted.lookup_reverse]

end Entries

end TreeTemplate
