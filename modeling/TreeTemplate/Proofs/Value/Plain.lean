import TreeTemplate.Proofs.Markup.Unescape

/-!
# Escaped texts of values

Only strings are escaped, but the texts of truth values and numbers have no special characters, so
that the escaped text of a value is its text, escaped as a whole (`Value.toText_escape`).

`Value.plain` says for each kind of value what its text is.  A value has this text if no map is in it
(`Value.MapFree.toText`).
-/

namespace TreeTemplate

namespace Markup

/-- A digit is not escaped. -/
lemma escapeChar_of_isDigit {c : Char} (digit : c.isDigit) : escapeChar c = [c] := by
  unfold escapeChar
  split
  · exact absurd digit (by decide)
  · exact absurd digit (by decide)
  · exact absurd digit (by decide)
  · exact absurd digit (by decide)
  · exact absurd digit (by decide)
  · rfl

/-- No character of a number in decimal digits is escaped. -/
lemma escapeChar_of_mem_toDigits {n : Nat} {c : Char} (member : c ∈ Nat.toDigits 10 n) :
    escapeChar c = [c] :=
  escapeChar_of_isDigit (Nat.isDigit_of_mem_toDigits (by decide) (by decide) member)

/-- Natural numbers are written without anything to escape. -/
lemma escape_toString_nat (n : Nat) : escape (toString n) = toString n := by
  rw [Nat.toString_eq_ofList_toDigits]
  refine escape_eq_self fun c member => ?_
  rw [String.toList_ofList] at member
  exact escapeChar_of_mem_toDigits member

/-- Integers are written without anything to escape: their sign is left as it is. -/
lemma escape_toString_int (n : Int) : escape (toString n) = toString n := by
  cases n with
  | ofNat n => exact escape_toString_nat n
  | negSucc n =>
    have negative : toString (Int.negSucc n) = "-" ++ toString (n + 1) := rfl
    rw [negative, escape_append, escape_toString_nat]
    rfl

/-- The decimal digits of a float, written positionally, have nothing to escape. -/
lemma escape_positional (d : Decimal) : escape d.positional = d.positional := by
  refine escape_eq_self fun c member => ?_
  have zero : ∀ count, c ∈ List.replicate count '0' → escapeChar c = [c] := by
    intro count member
    rw [List.eq_of_mem_replicate member]
    rfl
  unfold Decimal.positional at member
  dsimp only at member
  split at member
  · rw [String.toList_ofList, List.mem_append] at member
    rcases member with digit | padding
    · exact escapeChar_of_mem_toDigits digit
    · exact zero _ padding
  · rename_i places
    have padded : ∀ count, c ∈ List.replicate count '0' ++ Nat.toDigits 10 d.digits →
        escapeChar c = [c] := by
      intro count member
      rcases List.mem_append.1 member with padding | digit
      · exact zero count padding
      · exact escapeChar_of_mem_toDigits digit
    rw [String.toList_ofList, List.mem_append, List.mem_cons] at member
    rcases member with whole | rfl | fraction
    · exact padded _ (List.mem_of_mem_take whole)
    · rfl
    · exact padded _ (List.mem_of_mem_drop fraction)

/-- Floats are written without anything to escape, the infinities included. -/
lemma escape_floatText (x : Float) : escape (floatText x) = floatText x := by
  have sign : ∀ negative : Prop, ∀ [Decidable negative],
      escape (if negative then "" else "-") = if negative then "" else "-" := by
    intro negative _
    split
    · rfl
    · rfl
  unfold floatText
  dsimp only
  split
  · rfl
  · split
    · rw [escape_append, sign]
      rfl
    · rw [escape_append, sign, escape_positional]

end Markup

namespace Value

/-- No map is in a value. -/
inductive MapFree : Value → Prop where
  | none : MapFree .none
  | bool (b : Bool) : MapFree (.bool b)
  | integer (n : Int64) : MapFree (.integer n)
  | float (x : Float) : MapFree (.float x)
  | string (text : String) : MapFree (.string text)
  | list {items : List Value} : (∀ item ∈ items, MapFree item) → MapFree (.list items)

mutual

/-- The plain text of a value: the texts of the items of a list have nothing between them, and nothing
and a map have an empty one. -/
def plain : Value → String
  | .none => ""
  | .bool true => "true"
  | .bool false => "false"
  | .integer n => toString n.toInt
  | .float x => floatText x
  | .string text => text
  | .list items => String.join (plainEach items)
  | .map _ => ""
termination_by structural value => value

/-- The plain texts of values. -/
def plainEach : List Value → List String
  | [] => []
  | item :: rest => item.plain :: plainEach rest
termination_by structural items => items

end

/-- The plain texts of values are those of each, in order. -/
lemma plainEach_eq_map (items : List Value) : plainEach items = items.map plain := by
  induction items with
  | nil => rfl
  | cons item rest ih => rw [plainEach, ih, List.map_cons]

/-- The escaped text of a value is its text, escaped.  A value without a text has no escaped one, for
the same reason. -/
lemma toText_escape (value : Value) :
    value.toText Markup.escape = Markup.escape <$> value.toText id := by
  induction value with
  | none | map => rfl
  | bool b =>
    cases b with
    | true => rfl
    | false => rfl
  | integer n =>
    rw [toText_of_pieces rfl, toText_of_pieces rfl]
    exact congrArg Except.ok (Markup.escape_toString_int n.toInt).symm
  | float x =>
    rw [toText_of_pieces rfl, toText_of_pieces rfl]
    exact congrArg Except.ok (Markup.escape_floatText x).symm
  | string text =>
    rw [toText_string, toText_string]
    rfl
  | list items ih =>
    rw [toText_list, toText_list, mapM_congr ih, mapM_map_result]
    cases items.mapM (toText id) with
    | error error => rfl
    | ok texts => exact congrArg Except.ok (Markup.escape_join texts).symm

/-- A value without maps has its plain text as its text, and that text escaped as its escaped one. -/
lemma MapFree.toText {value : Value} (free : value.MapFree) :
    value.toText id = .ok value.plain
      ∧ value.toText Markup.escape = .ok (Markup.escape value.plain) := by
  have verbatim : value.toText id = .ok value.plain := by
    induction free with
    | none => rfl
    | bool b =>
      cases b with
      | true => rfl
      | false => rfl
    | integer | float | string => exact toText_of_pieces rfl
    | list each ih =>
      rw [toText_list, mapM_eq_ok_map ih, plain, plainEach_eq_map]
      rfl
  rw [toText_escape, verbatim]
  exact ⟨rfl, rfl⟩

/-- The escaped text of a value has no delimiters. -/
lemma notDelimiter_of_mem_toText {value : Value} {text : String}
    (written : value.toText Markup.escape = .ok text) :
    ∀ c ∈ text.toList, Markup.isDelimiter c = false := by
  rw [toText_escape] at written
  obtain ⟨verbatim, -, rfl⟩ := map_eq_ok_iff.1 written
  exact fun c => Markup.notDelimiter_of_mem_escape

end Value

end TreeTemplate
