import TreeTemplate.Path.Resolve
import TreeTemplate.Proofs.Path.Characters

/-!
# Longer paths

A path with a dot and more segments behind it is a path, and it leads on by these segments from where
the shorter path leads (`Path.resolve_append`).  The texts agree with this: markers are taken off the
front of the longer text as they are off the front of the shorter one, for what follows them starts
with a segment in both, and a dot between two texts cuts them apart (`Path.ofText?_append`).  Only
`this` is no path to go on from: with segments behind it, it is a key in the current context.
-/

namespace TreeTemplate

/-- To follow segments and then more of them is to follow all of them. -/
lemma Value.follow?_append (value : Value) (segments more : List String) :
    value.follow? (segments ++ more) =
      (value.follow? segments).bind fun found => found.follow? more := by
  induction segments generalizing value with
  | nil => rfl
  | cons segment rest ih =>
    rw [List.cons_append, follow?, follow?, Option.bind_assoc]
    exact congrArg _ (funext ih)

namespace Path

/-- The path with more segments behind it. -/
def append : Path → List String → Path
  | this, segments => .current ("this" :: segments)
  | current first, segments => .current (first ++ segments)
  | parent first, segments => .parent (first ++ segments)

/-- A longer path leads on from where the shorter one leads. -/
theorem resolve_append {path : Path} (other : path ≠ .this) (segments : List String)
    (current top : Value) :
    (path.append segments).resolve current top =
      (path.resolve current top).bind fun found => found.follow? segments := by
  cases path with
  | this => exact absurd rfl other
  | current first => exact Value.follow?_append current first segments
  | parent first => exact Value.follow?_append top first segments

/-- The segments that are followed from where a path starts. -/
def segments : Path → List String
  | this => []
  | current segments | parent segments => segments

/-- A path is followed from the top-level context if it has a marker, and else from the current one. -/
lemma resolve_eq_follow? (path : Path) (current top : Value) :
    path.resolve current top = (if path.isParent then top else current).follow? path.segments := by
  cases path with
  | this | current | parent => rfl

/-- A valid segment is not cut. -/
lemma segmentsOf_of_isSegment {text : String} (segment : isSegment text) :
    segmentsOf text.toList = [text] := by
  have noDot : '.' ∉ text.toList := by
    intro member
    have part := (chars_of_isSegment segment).2 '.' member
    revert part
    decide
  rw [segmentsOf, List.splitOn_eq_singleton noDot, List.map_singleton, String.ofList_toList]

/-- A text that is cut into valid segments starts with another character than a dot. -/
lemma exists_cons_of_segments {text : List Char} (segments : (segmentsOf text).all isSegment) :
    ∃ first rest, text = first :: rest ∧ first ≠ '.' := by
  cases text with
  | nil => exact absurd rfl (ne_nil_of_segments segments)
  | cons first rest =>
    refine ⟨first, rest, rfl, ?_⟩
    rintro rfl
    rw [segmentsOf_dot] at segments
    cases segments

/-- No marker is at the front of a text that starts with another character than a dot. -/
lemma dropMarkers_cons {first : Char} (noDot : first ≠ '.') (rest : List Char) :
    dropMarkers (first :: rest) = first :: rest := by
  rw [dropMarkers]
  rintro _ same
  cases same
  exact noDot rfl

/-- Markers end where valid segments begin, whatever is behind these. -/
lemma dropMarkers_append {text : List Char}
    (segments : (segmentsOf (dropMarkers text)).all isSegment) (more : List Char) :
    dropMarkers (text ++ more) = dropMarkers text ++ more := by
  fun_induction dropMarkers text with
  | case1 rest ih =>
    rw [List.cons_append, List.cons_append, List.cons_append, dropMarkers]
    exact ih segments
  | case2 text _ =>
    obtain ⟨first, rest, rfl, noDot⟩ := exists_cons_of_segments segments
    exact dropMarkers_cons noDot (rest ++ more)

/-- A text behind a marker is a path from the top-level context, if what follows all its markers are
valid segments. -/
lemma ofText?_of_marker {text : String} {rest : List Char}
    (chars : text.toList = '.' :: '.' :: '/' :: rest)
    (segments : (segmentsOf (dropMarkers rest)).all isSegment) :
    ofText? text = some (.parent (segmentsOf rest)) := by
  have other : text ≠ "this" := by
    rintro rfl
    cases chars
  have dropped : dropMarkers text.toList = dropMarkers rest := by rw [chars, dropMarkers]
  rw [ofText?, if_neg other, dropped, if_pos segments, chars]
  rfl

/-- A text without a dot in front is a path from the current context, if it is cut into valid
segments. -/
lemma ofText?_of_cons {text : String} {first : Char} {rest : List Char}
    (chars : text.toList = first :: rest) (noDot : first ≠ '.') (other : text ≠ "this")
    (segments : (segmentsOf text.toList).all isSegment) :
    ofText? text = some (.current (segmentsOf text.toList)) := by
  rw [chars] at segments
  rw [ofText?, if_neg other, chars, dropMarkers_cons noDot, if_pos segments]
  split
  · rename_i same
    cases same
    exact absurd rfl noDot
  · rfl

/-- A text that is a path is `this`, or it has a marker in front, or it is cut into valid segments as
it is. -/
lemma ofText?_cases {text : String} {path : Path} (found : ofText? text = some path) :
    (text = "this" ∧ path = .this)
      ∨ (∃ rest, text.toList = '.' :: '.' :: '/' :: rest ∧ path = .parent (segmentsOf rest)
        ∧ (segmentsOf (dropMarkers rest)).all isSegment)
      ∨ ∃ first rest, text.toList = first :: rest ∧ first ≠ '.' ∧ text ≠ "this"
        ∧ path = .current (segmentsOf text.toList) ∧ (segmentsOf text.toList).all isSegment := by
  unfold ofText? at found
  split at found
  · cases found
    exact .inl ⟨‹_›, rfl⟩
  · rename_i other
    split at found
    · rename_i segments
      cases found
      split
      · rename_i rest chars
        rw [chars, dropMarkers] at segments
        exact .inr (.inl ⟨rest, chars, rfl, segments⟩)
      · rename_i noMarker
        rw [dropMarkers] at segments
        · obtain ⟨first, rest, chars, noDot⟩ := exists_cons_of_segments segments
          exact .inr (.inr ⟨first, rest, chars, noDot, other, rfl, segments⟩)
        · exact noMarker
    · cases found

section

variable {text other : String}

/-- The characters of two texts with a dot between them. -/
lemma toList_append_dot :
    (text ++ "." ++ other).toList = text.toList ++ '.' :: other.toList := by
  rw [String.toList_append, String.toList_append, List.append_assoc]
  rfl

/-- A text with a dot in it is not `this`. -/
lemma append_dot_ne_this : text ++ "." ++ other ≠ "this" := by
  intro same
  have dot : '.' ∈ "this".toList := by
    rw [← same, toList_append_dot]
    exact List.mem_append_right _ List.mem_cons_self
  revert dot
  decide

/-- A path to the parent value, with more segments behind it, spells that with all of them. -/
lemma ofText?_append_of_marker {rest : List Char}
    (chars : text.toList = '.' :: '.' :: '/' :: rest)
    (valid : (segmentsOf (dropMarkers rest)).all isSegment)
    (segments : (segmentsOf other.toList).all isSegment) :
    ofText? (text ++ "." ++ other) = some (.parent (segmentsOf rest ++ segmentsOf other.toList)) := by
  have longer : (text ++ "." ++ other).toList =
      '.' :: '.' :: '/' :: (rest ++ '.' :: other.toList) := by
    rw [toList_append_dot, chars]
    rfl
  have behind : (segmentsOf (dropMarkers (rest ++ '.' :: other.toList))).all isSegment := by
    rw [dropMarkers_append valid, segmentsOf_append_dot, List.all_append, valid, segments]
    rfl
  rw [ofText?_of_marker longer behind, segmentsOf_append_dot]

/-- A path from the current value, with more segments behind it, spells that with all of them. -/
lemma ofText?_append_of_cons {first : Char} {rest : List Char} (chars : text.toList = first :: rest)
    (noDot : first ≠ '.') (valid : (segmentsOf text.toList).all isSegment)
    (segments : (segmentsOf other.toList).all isSegment) :
    ofText? (text ++ "." ++ other) =
      some (.current (segmentsOf text.toList ++ segmentsOf other.toList)) := by
  have longer : (text ++ "." ++ other).toList = first :: (rest ++ '.' :: other.toList) := by
    rw [toList_append_dot, chars]
    rfl
  have cut : segmentsOf (text ++ "." ++ other).toList =
      segmentsOf text.toList ++ segmentsOf other.toList := by
    rw [toList_append_dot, segmentsOf_append_dot]
  rw [ofText?_of_cons longer noDot append_dot_ne_this, cut]
  rw [cut, List.all_append, valid, segments]
  rfl

/-- A path followed by a dot and a text that is cut into valid segments is the path with these
segments behind it. -/
theorem ofText?_append {path : Path} (found : ofText? text = some path)
    (segments : (segmentsOf other.toList).all isSegment) :
    ofText? (text ++ "." ++ other) = some (path.append (segmentsOf other.toList)) := by
  obtain ⟨rfl, rfl⟩ | ⟨rest, chars, rfl, valid⟩ | ⟨first, rest, chars, noDot, -, rfl, valid⟩ :=
    ofText?_cases found
  · have this : segmentsOf "this".toList = ["this"] := segmentsOf_of_isSegment rfl
    have valid : (segmentsOf "this".toList).all isSegment := by
      rw [this]
      rfl
    have chars : "this".toList = ['t', 'h', 'i', 's'] := rfl
    rw [ofText?_append_of_cons chars (by decide) valid segments, this]
    rfl
  · exact ofText?_append_of_marker chars valid segments
  · exact ofText?_append_of_cons chars noDot valid segments

end

/-- A path that is followed from the current context: it has no marker and is not `this`. -/
def IsRelative (path : Path) : Prop :=
  path.isParent = false ∧ path ≠ .this

/-- A relative path is one of segments from the current value. -/
lemma IsRelative.exists_current {path : Path} (relative : path.IsRelative) :
    ∃ segments, path = .current segments := by
  cases path with
  | this => exact absurd rfl relative.2
  | current segments => exact ⟨segments, rfl⟩
  | parent segments => exact absurd relative.1 Bool.noConfusion

/-- The path that leads on by the second path from where the first one leads. -/
def compose (path inner : Path) : Path :=
  path.append inner.segments

/-- A prefix keeps saying whether the path starts at the top. -/
lemma isParent_compose {path : Path} (other : path ≠ .this) (inner : Path) :
    (path.compose inner).isParent = path.isParent := by
  cases path with
  | this => exact absurd rfl other
  | current | parent => rfl

/-- To resolve a path behind a prefix is to resolve it from what the prefix resolves to. -/
lemma resolve_compose {path inner : Path} (other : path ≠ .this) (relative : inner.IsRelative)
    (current top : Value) :
    (path.compose inner).resolve current top =
      (path.resolve current top).bind fun found => inner.resolve found top := by
  obtain ⟨segments, rfl⟩ := relative.exists_current
  exact resolve_append other segments current top

section

variable {text more : String} {path inner : Path}

/-- The text of a composed path has a dot between the texts of the two. -/
lemma ofText?_compose (found : ofText? text = some path) (foundInner : ofText? more = some inner)
    (relative : inner.IsRelative) : ofText? (text ++ "." ++ more) = some (path.compose inner) := by
  obtain ⟨-, rfl⟩ | ⟨rest, -, rfl, -⟩ | ⟨first, rest, -, -, -, rfl, segments⟩ :=
    ofText?_cases foundInner
  · exact absurd rfl relative.2
  · exact absurd relative.1 Bool.noConfusion
  · exact ofText?_append found segments

/-- A path behind a marker has the same segments, followed from the top-level context. -/
lemma ofText?_behind_marker (foundInner : ofText? more = some inner) (relative : inner.IsRelative) :
    ofText? ("../" ++ more) = some (.parent inner.segments) := by
  obtain ⟨-, rfl⟩ | ⟨rest, -, rfl, -⟩ | ⟨first, rest, chars, noDot, -, rfl, segments⟩ :=
    ofText?_cases foundInner
  · exact absurd rfl relative.2
  · exact absurd relative.1 Bool.noConfusion
  · have marker : ("../" ++ more).toList = '.' :: '.' :: '/' :: more.toList := String.toList_append
    refine ofText?_of_marker marker ?_
    rw [chars, dropMarkers_cons noDot, ← chars]
    exact segments

end

/-- A path followed by a dot and one segment is the path with this segment behind it. -/
lemma ofText?_append_segment {text key : String} {path : Path} (found : ofText? text = some path)
    (segment : isSegment key) : ofText? (text ++ "." ++ key) = some (path.append [key]) := by
  have cut := segmentsOf_of_isSegment segment
  rw [ofText?_append found (by rw [cut, List.all_cons, segment]; rfl), cut]

end Path

end TreeTemplate
