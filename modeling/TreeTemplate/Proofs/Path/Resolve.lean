import TreeTemplate.Engine
import TreeTemplate.Proofs.Expansion.Step
import TreeTemplate.Proofs.Path.Characters

/-!
# Paths with several markers

Only the first marker of a path is understood, and what follows is cut at its dots, so that the dots
of a second marker leave two empty segments.  Such a path does not lead further up than to the
top-level context, but it does lead somewhere: an empty segment is a key like any other.  So it
resolves to what stands under these keys, if maps with empty keys are there
(`Path.resolve_of_markers`), and to nothing in all other contexts.
-/

namespace TreeTemplate

/-- What stands in a value under a key, if the value is a map. -/
def Value.entry? (value : Value) (key : String) : Option Value :=
  match value with
  | .map entries => entries.lookup key
  | _ => .none

/-- A segment that is no run of digits finds nothing but entries of maps. -/
lemma Value.member?_eq_entry? {segment : String} (key : Text.isDigits segment = false)
    (value : Value) : value.member? segment = value.entry? segment := by
  cases value with
  | list items =>
    have noIndex : Text.index? segment = .none := by
      rw [Text.index?, key]
      rfl
    rw [member?, noIndex]
    rfl
  | none | bool | integer | float | string | map => rfl

/-- A value inside maps, each with one key of a list as its only one, the first outermost. -/
def Value.nested (keys : List String) (value : Value) : Value :=
  keys.foldr (fun key inner => .map [(key, inner)]) value

/-- The keys of nested maps lead to the value inside. -/
lemma Value.follow?_nested (keys : List String) (value : Value) :
    (nested keys value).follow? keys = some value := by
  induction keys with
  | nil => rfl
  | cons key keys ih =>
    have found : (nested (key :: keys) value).member? key = some (nested keys value) :=
      List.lookup_cons_self
    rw [follow?, found]
    exact ih

namespace Path

/-- The dots of a second marker end two empty segments. -/
lemma eq_of_markers {text : String} {rest : List Char} {path : Path}
    (markers : text.toList = '.' :: '.' :: '/' :: '.' :: '.' :: '/' :: rest)
    (found : ofText? text = some path) :
    path = .parent ("" :: "" :: segmentsOf ('/' :: rest)) := by
  have other : text ≠ "this" := by
    rintro rfl
    cases markers
  unfold ofText? at found
  rw [if_neg other, markers] at found
  split at found
  · cases found
    show parent (segmentsOf ('.' :: '.' :: '/' :: rest)) = _
    rw [segmentsOf_dot, segmentsOf_dot]
  · cases found

/-- A path with two markers or more resolves to what stands in the top-level context under two empty
keys and the rest of the path, whatever the current context is.  Where there is no entry under two
empty keys, a reference with the path is expanded to the empty value.  But every such path resolves
to any given value in some context. -/
theorem resolve_of_markers {text : String} {rest : List Char} {path : Path}
    (markers : text.toList = '.' :: '.' :: '/' :: '.' :: '.' :: '/' :: rest)
    (found : ofText? text = some path) :
    (∀ current top, path.resolve current top =
        (top.entry? "").bind fun outer => (outer.entry? "").bind fun inner =>
          inner.follow? (segmentsOf ('/' :: rest)))
      ∧ (∀ (expansion : Expansion) (left : Nat) (current : Value),
        ((expansion.top.entry? "").bind fun outer => outer.entry? "") = none →
          expansion.run left current (.var path) = .ok [.literal .none]
            ∧ expansion.run left current (.raw path) = .ok [.unescaped .none])
      ∧ ∀ value, ∃ top, ∀ current, path.resolve current top = some value := by
  obtain rfl := eq_of_markers markers found
  have resolves : ∀ current top,
      (parent ("" :: "" :: segmentsOf ('/' :: rest))).resolve current top =
        (top.entry? "").bind fun outer => (outer.entry? "").bind fun inner =>
          inner.follow? (segmentsOf ('/' :: rest)) := by
    intro current top
    have empty : Text.isDigits "" = false := rfl
    rw [resolve, Value.follow?, Value.member?_eq_entry? empty]
    refine congrArg _ (funext fun outer => ?_)
    rw [Value.follow?, Value.member?_eq_entry? empty]
  refine ⟨resolves, ?_, ?_⟩
  · intro expansion left current nothing
    have absent : expansion.value current (parent ("" :: "" :: segmentsOf ('/' :: rest))) =
        .none := by
      rw [Expansion.value, resolves, ← Option.bind_assoc, nothing]
      rfl
    rw [Expansion.run_eq_expandWith, Node.expandWith, Node.expandWith, absent]
    exact ⟨rfl, rfl⟩
  · intro value
    exact ⟨_, fun current => Value.follow?_nested _ value⟩

/-- A path with two markers finds what stands under two empty keys, and nothing where a path with one
marker leads. -/
theorem resolve_of_markers_user_name :
    let path : Path := .parent ["", "", "/user", "name"]
    let user : Value := .map [("user", .map [("name", .string "a")])]
    let odd : Value := .map [("", .map [("", .map [("/user", .map [("name", .string "b")])])])]
    "../../user.name".toList =
        '.' :: '.' :: '/' :: '.' :: '.' :: '/' :: "user.name".toList
      ∧ ofText? "../../user.name" = some path
      ∧ path.resolve user user = none
      ∧ path.resolve user odd = some (.string "b")
      ∧ (Engine.new.expansion user).run 0 odd (.var path) = .ok [.literal .none] := by
  intro path user odd
  have markers : "../../user.name".toList =
      '.' :: '.' :: '/' :: '.' :: '.' :: '/' :: "user.name".toList := rfl
  have found : ofText? "../../user.name" = some path := rfl
  obtain ⟨resolves, absent, -⟩ := resolve_of_markers markers found
  refine ⟨markers, found, ?_, ?_, ?_⟩
  · rw [resolves]
    rfl
  · rw [resolves]
    rfl
  · exact (absent (Engine.new.expansion user) 0 odd rfl).1

/-- A reference with two markers is not always expanded to the empty value: with empty keys in the
context it has the value that it leads to by them. -/
theorem resolve_of_empty_keys :
    let path : Path := .parent ["", "", "/x"]
    let context : Value := .map [("", .map [("", .map [("/x", .integer 1)])])]
    ofText? "../../x" = some path
      ∧ path.resolve .none context = some (.integer 1)
      ∧ Engine.empty.expandFrom (.tree (.var path)) context = .ok (.literal (.integer 1)) :=
  ⟨rfl, rfl, rfl⟩

end Path

end TreeTemplate
