import TreeTemplate.Proofs.Helper.Builtin
import TreeTemplate.Proofs.Node.Parts

/-!
# Values that differ in their texts only

Two values are alike if one comes from the other by replacing strings by strings, the empty string
only by itself.  Everything an expansion decides by is the same for alike values: what a path leads
to (`Path.resolve_alike`), whether a value is set (`Value.Alike.isTruthy_eq`), and in which contexts
a builtin helper renders its body (`Builtin.contexts_alike`).
-/

namespace TreeTemplate

/-- Entries of the same key with related things. -/
inductive Entries.Related {α β : Type} (R : α → β → Prop) : String × α → String × β → Prop where
  | mk {key : String} {a : α} {b : β} : R a b → Related R (key, a) (key, b)

/-- What is looked up next is related if what was found first is. -/
lemma rel_bind {α β γ δ : Type} {R : α → β → Prop} {S : γ → δ → Prop} {x : Option α} {y : Option β}
    {f : α → Option γ} {g : β → Option δ} (h : Option.Rel R x y)
    (next : ∀ a b, R a b → Option.Rel S (f a) (g b)) : Option.Rel S (x.bind f) (y.bind g) := by
  cases h with
  | none => exact .none
  | some related => exact next _ _ related

/-- What stands for a look-up that found nothing is related too. -/
lemma rel_getD {α β : Type} {R : α → β → Prop} {x : Option α} {y : Option β} {a : α} {b : β}
    (h : Option.Rel R x y) (default : R a b) : R (x.getD a) (y.getD b) := by
  cases h with
  | none => exact default
  | some related => exact related

/-- Equal values but for the texts of strings, which are both empty or both not. -/
inductive Value.Alike : Value → Value → Prop where
  | none : Alike .none .none
  | bool (b : Bool) : Alike (.bool b) (.bool b)
  | integer (n : Int64) : Alike (.integer n) (.integer n)
  | float (x : Float) : Alike (.float x) (.float x)
  | string {text other : String} : (text = "" ↔ other = "") → Alike (.string text) (.string other)
  | list {items others : List Value} :
    List.Forall₂ Alike items others →
    Alike (.list items) (.list others)
  | map {entries others : List (String × Value)} :
    List.Forall₂ (Entries.Related Alike) entries others →
    Alike (.map entries) (.map others)

namespace Value

lemma Alike.refl (value : Value) : value.Alike value := by
  induction value with
  | none => exact .none
  | bool b => exact .bool b
  | integer n => exact .integer n
  | float x => exact .float x
  | string text => exact .string Iff.rfl
  | list items ih => exact .list (List.forall₂_same.2 ih)
  | map entries ih => exact .map (List.forall₂_same.2 fun entry among => .mk (ih entry among))

variable {value other : Value}

/-- Alike values are both set or both not. -/
lemma Alike.isTruthy_eq (h : value.Alike other) : value.isTruthy = other.isTruthy := by
  cases h with
  | none | bool | integer | float => rfl
  | @string text other empty =>
    show (text != "") = (other != "")
    rw [Bool.eq_iff_iff, bne_iff_ne, bne_iff_ne]
    exact not_congr empty
  | list items =>
    cases items with
    | nil => rfl
    | cons => rfl
  | map => rfl

/-- Look-ups in entries that are alike find values that are alike, or nothing in both. -/
lemma lookup_alike {entries others : List (String × Value)}
    (h : List.Forall₂ (Entries.Related Alike) entries others) (key : String) :
    Option.Rel Alike (entries.lookup key) (others.lookup key) := by
  induction h with
  | nil => exact .none
  | cons head _ ih =>
    cases head with
    | mk alike =>
      rw [Entries.lookup_cons, Entries.lookup_cons]
      split
      · exact .some alike
      · exact ih

/-- Lists that are alike have values at an index that are alike, or nothing in both. -/
lemma getElem?_alike {items others : List Value} (h : List.Forall₂ Alike items others)
    (index : Nat) : Option.Rel Alike items[index]? others[index]? := by
  induction h generalizing index with
  | nil => exact .none
  | cons head _ ih =>
    cases index with
    | zero => exact .some head
    | succ index => exact ih index

/-- Members of values that are alike are alike. -/
lemma Alike.member? (h : value.Alike other) (segment : String) :
    Option.Rel Alike (value.member? segment) (other.member? segment) := by
  cases h with
  | none | bool | integer | float | string => exact .none
  | list items =>
    show Option.Rel Alike ((Text.index? segment).bind _) ((Text.index? segment).bind _)
    cases Text.index? segment with
    | none => exact .none
    | some index => exact getElem?_alike items index
  | map entries => exact lookup_alike entries segment

/-- What segments lead to from values that are alike is alike. -/
lemma Alike.follow? (h : value.Alike other) (segments : List String) :
    Option.Rel Alike (value.follow? segments) (other.follow? segments) := by
  induction segments generalizing value other with
  | nil => exact .some h
  | cons segment rest ih =>
    rw [Value.follow?, Value.follow?]
    exact rel_bind (h.member? segment) fun _ _ found => ih found

end Value

/-- A path leads to alike values in alike contexts. -/
lemma Path.resolve_alike (path : Path) {current current' top top' : Value}
    (currents : current.Alike current') (tops : top.Alike top') :
    Option.Rel Value.Alike (path.resolve current top) (path.resolve current' top') := by
  cases path with
  | this => exact .some currents
  | current segments => exact currents.follow? segments
  | parent segments => exact tops.follow? segments

/-- Builtin helpers render the body in alike contexts. -/
lemma Builtin.contexts_alike (builtin : Builtin) {value value' current current' : Value}
    (values : value.Alike value') (currents : current.Alike current') :
    List.Forall₂ Value.Alike (builtin.contexts value current)
      (builtin.contexts value' current') := by
  cases builtin with
  | withValue => exact .cons values .nil
  | each =>
    cases values with
    | none | bool | integer | float | string => exact .nil
    | list items => exact items
    | map entries =>
      show List.Forall₂ _ (List.map _ _) (List.map _ _)
      rw [List.forall₂_map_left_iff, List.forall₂_map_right_iff]
      refine entries.imp fun entry other related => ?_
      cases related with
      | mk alike => exact alike
  | ifSet =>
    rw [contexts, contexts, values.isTruthy_eq]
    split
    · exact .cons currents .nil
    · exact .nil
  | ifUnset =>
    rw [contexts, contexts, values.isTruthy_eq]
    split
    · exact .nil
    · exact .cons currents .nil

end TreeTemplate
