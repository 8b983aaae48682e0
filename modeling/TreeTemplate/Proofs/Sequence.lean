import Mathlib.Data.List.Forall2
import Mathlib.Data.Option.Basic

/-!
# Lists

What is in lists put together with something between them, and when lists can be told by their
images.
-/

namespace TreeTemplate

variable {α β γ : Type}

/-- A separator between lists is one in front of each but the first. -/
lemma intercalate_cons_eq_flatMap (separator first : List α) (rest : List (List α)) :
    separator.intercalate (first :: rest) = first ++ rest.flatMap (separator ++ ·) := by
  induction rest generalizing first with
  | nil => rw [List.intercalate_singleton, List.flatMap_nil, List.append_nil]
  | cons next rest ih =>
    rw [List.intercalate_cons_cons, ih, List.flatMap_cons, List.append_assoc, List.append_assoc]

/-- A member of lists with a separator between them is the separator or in one of the lists. -/
lemma mem_intercalate {x separator : α} {lists : List (List α)}
    (member : x ∈ [separator].intercalate lists) : x = separator ∨ ∃ list ∈ lists, x ∈ list := by
  cases lists with
  | nil => cases member
  | cons first rest =>
    rw [intercalate_cons_eq_flatMap, List.mem_append, List.mem_flatMap] at member
    obtain inFirst | ⟨list, among, inside⟩ := member
    · exact .inr ⟨first, List.mem_cons_self, inFirst⟩
    · obtain same | inList := List.mem_cons.1 inside
      · exact .inl same
      · exact .inr ⟨list, List.mem_cons_of_mem first among, inList⟩

/-- Each of the lists is a stretch of what they are put together to. -/
lemma infix_intercalate {separator list : List α} {lists : List (List α)} (among : list ∈ lists) :
    list <:+: separator.intercalate lists := by
  cases lists with
  | nil => cases among
  | cons first rest =>
    rw [intercalate_cons_eq_flatMap]
    obtain rfl | among := List.mem_cons.1 among
    · exact (List.prefix_append _ _).isInfix
    · have separated : separator ++ list <:+: rest.flatMap (separator ++ ·) :=
        List.infix_of_mem_flatten (List.mem_map_of_mem among)
      exact ((List.suffix_append separator list).isInfix.trans separated).trans
        (List.suffix_append first _).isInfix

/-- Lists are equal if their images are, and if equal images in them come from equal items. -/
lemma eq_of_map_eq_map {f : α → β} {list other : List α}
    (inj : ∀ x ∈ list, ∀ y ∈ other, f x = f y → x = y) (eq : list.map f = other.map f) :
    list = other := by
  induction list generalizing other with
  | nil => exact (List.map_eq_nil_iff.1 eq.symm).symm
  | cons x list ih =>
    obtain ⟨y, other, rfl, head, tail⟩ := List.map_eq_cons_iff.1 eq.symm
    obtain rfl := inj x List.mem_cons_self y List.mem_cons_self head.symm
    have rest : list = other := ih (fun a inList b inOther =>
      inj a (List.mem_cons_of_mem x inList) b (List.mem_cons_of_mem x inOther)) tail.symm
    rw [rest]

/-- A map that leaves each item of a list as it is leaves the list as it is. -/
lemma map_eq_self {f : α → α} {list : List α} (h : ∀ x ∈ list, f x = x) : list.map f = list := by
  rw [List.map_congr_left (g := id) h, List.map_id]

/-- A relation between the items of two lists may be replaced by one that follows from it for the
items of the first list. -/
lemma forall₂_imp_mem {R S : α → β → Prop} {list : List α} {other : List β}
    (h : List.Forall₂ R list other) (imp : ∀ a ∈ list, ∀ b, R a b → S a b) :
    List.Forall₂ S list other :=
  ((List.forall₂_and_left _ _).2 ⟨imp, h⟩).imp fun _ b both => both.1 b both.2

/-- A property of the items of one list that are related to those of another. -/
lemma forall_of_forall₂ {P : α → Prop} {list : List α} {other : List β}
    (related : List.Forall₂ (fun a _ => P a) list other) : ∀ a ∈ list, P a :=
  ((List.forall₂_and_left (R := fun _ _ => True) list other).1
    (related.imp fun _ _ holds => ⟨holds, trivial⟩)).1

/-- Items that are related to at most one thing each are related to one list at most. -/
lemma forall₂_unique {R : α → β → Prop} {list : List α} {first second : List β}
    (unique : ∀ a ∈ list, ∀ b c, R a b → R a c → b = c) (h : List.Forall₂ R list first)
    (h' : List.Forall₂ R list second) : first = second := by
  induction h generalizing second with
  | nil =>
    cases h'
    rfl
  | cons head _ ih =>
    cases h' with
    | cons head' tail' =>
      obtain ⟨here, behind⟩ := List.forall_mem_cons.1 unique
      rw [here _ _ head head', ih behind tail']

/-- The same for something that may be absent. -/
lemma option_rel_unique {R : α → β → Prop} {x : Option α} {first second : Option β}
    (unique : ∀ a, x = some a → ∀ b c, R a b → R a c → b = c) (h : Option.Rel R x first)
    (h' : Option.Rel R x second) : first = second := by
  cases h with
  | none =>
    cases h'
    rfl
  | some head =>
    cases h' with
    | some head' => rw [unique _ rfl _ _ head head']

/-- Each item of a list has one that it is related to in the other list. -/
lemma exists_mem_of_forall₂ {R : α → β → Prop} {list : List α} {other : List β}
    (related : List.Forall₂ R list other) : ∀ a ∈ list, ∃ b ∈ other, R a b := by
  induction related with
  | nil => exact List.forall_mem_nil _
  | cons head _ ih =>
    refine List.forall_mem_cons.2 ⟨⟨_, List.mem_cons_self, head⟩, fun a among => ?_⟩
    obtain ⟨b, inOther, holds⟩ := ih a among
    exact ⟨b, List.mem_cons_of_mem _ inOther, holds⟩

/-- Lists whose items have the same images have the same image. -/
lemma map_eq_map_of_forall₂ {f : α → γ} {g : β → γ} {list : List α} {other : List β}
    (related : List.Forall₂ (fun a b => g b = f a) list other) : other.map g = list.map f := by
  rw [← List.forall₂_eq_eq_eq, List.forall₂_map_left_iff, List.forall₂_map_right_iff]
  exact related.flip

/-- What is found first in lists put together is what is found in the first of them that has any. -/
lemma findSome?_flatMap (f : α → List β) (g : β → Option γ) (list : List α) :
    (list.flatMap f).findSome? g = list.findSome? fun a => (f a).findSome? g := by
  induction list with
  | nil => rfl
  | cons a list ih =>
    rw [List.flatMap_cons, List.findSome?_append, ih, List.findSome?_cons]
    cases (f a).findSome? g with
    | none => rfl
    | some found => rfl

/-- The same is found first where the same is found at each item. -/
lemma findSome?_congr {f g : α → Option β} {list : List α} (h : ∀ a ∈ list, f a = g a) :
    list.findSome? f = list.findSome? g := by
  induction list with
  | nil => rfl
  | cons a list ih =>
    obtain ⟨head, tail⟩ := List.forall_mem_cons.1 h
    rw [List.findSome?_cons, List.findSome?_cons, head, ih tail]

/-- What a look-up finds is an entry under that key. -/
lemma mem_of_lookup_eq_some {entries : List (String × α)} {key : String} {thing : α}
    (found : entries.lookup key = some thing) : (key, thing) ∈ entries := by
  obtain ⟨before, after, same, -⟩ := List.lookup_eq_some_iff.1 found
  rw [same]
  exact List.mem_append_right before List.mem_cons_self

/-- Look-ups in two lists with the same keys find things that are related. -/
lemma lookup_of_forall₂ {R : α → β → Prop} {list : List (String × α)} {other : List (String × β)}
    (related : List.Forall₂ (fun a b => a.1 = b.1 ∧ R a.2 b.2) list other) (key : String) :
    Option.Rel R (list.lookup key) (other.lookup key) := by
  induction related with
  | nil => exact .none
  | @cons a b _ _ head _ ih =>
    rw [List.lookup_cons, List.lookup_cons, head.1]
    cases key == b.1 with
    | true => exact .some head.2
    | false => exact ih

/-- Looking a key up behind a map of the values maps what is found. -/
lemma lookup_map_snd (f : α → β) (entries : List (String × α)) (key : String) :
    (entries.map fun entry => (entry.1, f entry.2)).lookup key = (entries.lookup key).map f := by
  induction entries with
  | nil => rfl
  | cons entry rest ih =>
    rw [List.map_cons, List.lookup_cons, List.lookup_cons, ih]
    cases key == entry.1 with
    | true => rfl
    | false => rfl

end TreeTemplate
