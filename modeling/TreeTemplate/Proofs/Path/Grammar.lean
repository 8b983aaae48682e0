import TreeTemplate.Proofs.Form.Checks
import TreeTemplate.Proofs.Path.Append

/-!
# The grammar of paths

The texts of paths are `this` and segments with single dots between them, with any number of markers
in front (`Path.Spelled`).  A path is read in two ways that must be reconciled: its segments are
checked behind all markers, but cut behind the first one only, at dots that are those of further
markers too.  The check accepts just the texts of the grammar, for a segment never starts as a marker
does and holds no dot.  And nothing is lost by the cut, so that the segments and the one marker that
is understood spell the text again (`Path.parse_spelled`).
-/

namespace TreeTemplate.Path

/-- A text that is a segment: an identifier, or a run of digits that is not empty. -/
def Segment (text : String) : Prop :=
  isIdentifier text ∨ text ≠ "" ∧ ∀ c ∈ text.toList, c.isDigit

/-- The check of a segment accepts exactly what the grammar allows. -/
lemma isSegment_iff {text : String} : isSegment text ↔ Segment text := by
  rw [isSegment, Text.isDigits, Segment, Bool.or_eq_true, Bool.and_eq_true, bne_iff_ne,
    List.all_eq_true]

/-- The texts of paths. -/
inductive Spelled : String → Prop where
  | this : Spelled "this"
  | segments (markers : Nat) {segments : List String} : segments ≠ [] →
    (∀ segment ∈ segments, Segment segment) →
    Spelled (String.join (List.replicate markers "../") ++ String.intercalate "." segments)

/-- All markers in front of a text are taken off. -/
lemma dropMarkers_markers (markers : Nat) (text : List Char) :
    dropMarkers ((String.join (List.replicate markers "../")).toList ++ text) =
      dropMarkers text := by
  induction markers with
  | zero => rfl
  | succ markers ih =>
    rw [List.replicate_succ, String.join_cons, String.toList_append, List.append_assoc]
    exact ih

/-- What is taken off the front of a text are markers. -/
lemma exists_markers (text : List Char) : ∃ markers : Nat,
    text = (String.join (List.replicate markers "../")).toList ++ dropMarkers text := by
  fun_induction dropMarkers text with
  | case1 rest ih =>
    obtain ⟨markers, same⟩ := ih
    refine ⟨markers + 1, ?_⟩
    rw [List.replicate_succ, String.join_cons, String.toList_append, List.append_assoc, ← same]
    rfl
  | case2 text _ => exact ⟨0, rfl⟩

/-- Every text has at least one segment between dots, if only an empty one. -/
lemma segmentsOf_ne_nil (text : List Char) : segmentsOf text ≠ [] := by
  rw [segmentsOf, Ne, List.map_eq_nil_iff]
  exact List.splitOn_ne_nil '.' text

/-- Segments with dots between them are cut apart again. -/
lemma segmentsOf_intercalate {segments : List String} (nonempty : segments ≠ [])
    (valid : ∀ segment ∈ segments, isSegment segment) :
    segmentsOf (String.intercalate "." segments).toList = segments := by
  have noDot : ∀ chars ∈ segments.map String.toList, '.' ∉ chars := by
    refine List.forall_mem_map.2 fun segment among member => ?_
    have part := (chars_of_isSegment (valid segment among)).2 '.' member
    revert part
    decide
  have dots : (String.intercalate "." segments).toList =
      ['.'].intercalate (segments.map String.toList) := String.toList_intercalate
  rw [segmentsOf, dots, List.splitOn_intercalate '.' noDot (by simpa using nonempty), List.map_map]
  exact map_eq_self fun segment _ => String.ofList_toList

/-- The texts that are read as paths are those of the grammar. -/
lemma isSome_ofText?_iff {text : String} : (ofText? text).isSome ↔ Spelled text := by
  rw [ofText?_isSome_iff]
  constructor
  · rintro (rfl | valid)
    · exact .this
    · obtain ⟨markers, chars⟩ := exists_markers text.toList
      have spelled : text = String.join (List.replicate markers "../")
          ++ String.intercalate "." (segmentsOf (dropMarkers text.toList)) := by
        apply String.toList_inj.1
        rw [String.toList_append, intercalate_segmentsOf, ← chars]
      rw [spelled]
      refine .segments markers (segmentsOf_ne_nil _) fun segment among => ?_
      exact isSegment_iff.1 (List.all_eq_true.1 valid segment among)
  · intro spelled
    cases spelled with
    | this => exact .inl rfl
    | @segments markers segments nonempty each =>
      have valid : ∀ segment ∈ segments, isSegment segment :=
        fun segment among => isSegment_iff.2 (each segment among)
      have cut := segmentsOf_intercalate nonempty valid
      have all : (segmentsOf (String.intercalate "." segments).toList).all isSegment := by
        rw [cut]
        exact List.all_eq_true.2 valid
      obtain ⟨first, rest, chars, noDot⟩ := exists_cons_of_segments all
      right
      -- a segment is in front of the rest, so no further marker is taken off
      rwa [String.toList_append, dropMarkers_markers, chars, dropMarkers_cons noDot, ← chars]

section

variable {text : String} {path : Path}

/-- A path that was read has segments, unless it is `this`. -/
lemma segments_ne_nil_of_ofText? (found : ofText? text = some path) (other : path ≠ .this) :
    path.segments ≠ [] := by
  obtain ⟨-, rfl⟩ | ⟨rest, -, rfl, -⟩ | ⟨first, rest, -, -, -, rfl, -⟩ := ofText?_cases found
  · exact absurd rfl other
  · exact segmentsOf_ne_nil rest
  · exact segmentsOf_ne_nil text.toList

/-- Only the text `this` spells the path to the current value itself. -/
lemma eq_this_iff_of_ofText? (found : ofText? text = some path) : path = .this ↔ text = "this" := by
  obtain ⟨rfl, rfl⟩ | ⟨rest, chars, rfl, -⟩ | ⟨first, rest, -, -, other, rfl, -⟩ :=
    ofText?_cases found
  · exact iff_of_true rfl rfl
  · refine iff_of_false (by intro same; cases same) ?_
    rintro rfl
    cases chars
  · exact iff_of_false (by intro same; cases same) other

/-- A path starts from the top-level context if its text starts with a marker. -/
lemma isParent_iff_of_ofText? (found : ofText? text = some path) :
    path.isParent ↔ ∃ rest, text = "../" ++ rest := by
  have marker : ∀ rest, ("../" ++ rest).toList = '.' :: '.' :: '/' :: rest.toList :=
    fun rest => String.toList_append
  obtain ⟨rfl, rfl⟩ | ⟨rest, chars, rfl, -⟩ | ⟨first, rest, chars, noDot, -, rfl, -⟩ :=
    ofText?_cases found
  · refine iff_of_false (by decide) ?_
    rintro ⟨rest, same⟩
    have chars := marker rest
    rw [← same] at chars
    cases chars
  · refine iff_of_true rfl ⟨String.ofList rest, String.toList_inj.1 ?_⟩
    rw [marker, String.toList_ofList, chars]
  · refine iff_of_false Bool.false_ne_true ?_
    rintro ⟨rest, rfl⟩
    rw [marker] at chars
    cases chars
    exact noDot rfl

/-- A path with a segment finds nothing in a context without members, so it does not stand for the
context. -/
lemma resolve_eq_current_iff (nonempty : path ≠ .this → path.segments ≠ []) :
    (∀ current top, path.resolve current top = some current) ↔ path = .this := by
  constructor
  · intro itself
    by_contra other
    obtain ⟨segment, rest, segments⟩ := List.exists_cons_of_ne_nil (nonempty other)
    have nothing := itself .none .none
    rw [resolve_eq_follow?, ite_self, segments] at nothing
    cases nothing
  · rintro rfl current top
    rfl

/-- Any other path is written as its segments with dots between them, behind the marker of the
parent if it has one. -/
lemma text_eq_of_ne_this (other : path ≠ .this) :
    path.text = (if path.isParent then "../" else "") ++ String.intercalate "." path.segments := by
  cases path with
  | this => exact absurd rfl other
  | current segments => exact String.empty_append.symm
  | parent segments => rfl

end

/-- The texts that are read as paths are those of the grammar, and every other text is an invalid
argument.  A path that was read has its text.  It stands for the current context itself if the text is
`this`, it is followed from the top-level context if a marker is in front of the text, and from the
current one otherwise.  The segments that are followed spell the text, behind one marker if it has
any. -/
theorem parse_spelled (text : String) :
    ((∃ path, parse text = .ok path) ↔ Spelled text)
      ∧ (¬ Spelled text → ∃ error, parse text = .error error ∧ error.kind = .invalidArgument)
      ∧ ∀ path, parse text = .ok path →
        path.text = text
          ∧ ((∀ current top, path.resolve current top = some current) ↔ text = "this")
          ∧ (path.isParent ↔ ∃ rest, text = "../" ++ rest)
          ∧ (∀ current top, path.resolve current top =
              (if path.isParent then top else current).follow? path.segments)
          ∧ (text ≠ "this" → text =
              (if path.isParent then "../" else "") ++ String.intercalate "." path.segments) := by
  have read : ∀ path, parse text = .ok path ↔ ofText? text = some path :=
    fun path => ⟨(parse_ends text).of_ok, parse_eq_ok⟩
  have spelled : (∃ path, parse text = .ok path) ↔ Spelled text := by
    rw [← isSome_ofText?_iff, Option.isSome_iff_exists]
    exact exists_congr read
  refine ⟨spelled, fun other => ?_, fun path result => ?_⟩
  · cases ends : parse text with
    | ok path => exact absurd (spelled.1 ⟨path, ends⟩) other
    | error error =>
      obtain ⟨check, -⟩ := (parse_ends text).of_error ends
      exact ⟨error, rfl, check.kind⟩
  · have found := (read path).1 result
    have itself := eq_this_iff_of_ofText? found
    have whole := text_of_ofText? found
    refine ⟨whole, ?_, isParent_iff_of_ofText? found, resolve_eq_follow? path, fun other => ?_⟩
    · rw [resolve_eq_current_iff (segments_ne_nil_of_ofText? found), itself]
    · rw [← text_eq_of_ne_this (fun same => other (itself.1 same)), whole]

/-- The dots of a second marker are among those at which a path is cut, so that no segment of the
grammar is stored, but the text is kept.  An empty segment that is written is none of the grammar. -/
theorem parse_spelled_of_two_markers :
    let path : Path := .parent ["", "", "/items", "0"]
    parse "../../items.0" = .ok path ∧ Spelled "../../items.0"
      ∧ path.text = "../../items.0"
      ∧ path.isParent
      ∧ (∀ current top, path.resolve current top = top.follow? ["", "", "/items", "0"])
      ∧ "../../items.0" = "../" ++ String.intercalate "." ["", "", "/items", "0"]
      ∧ ¬ Spelled "items..0"
      ∧ ∃ error, parse "items..0" = .error error ∧ error.kind = .invalidArgument := by
  intro path
  obtain ⟨spelled, -, kept⟩ := parse_spelled "../../items.0"
  obtain ⟨spelledEmpty, invalid, -⟩ := parse_spelled "items..0"
  have read : parse "../../items.0" = .ok path := rfl
  have unread : ¬ Spelled "items..0" := by
    intro accepted
    obtain ⟨path, result⟩ := spelledEmpty.2 accepted
    cases result
  obtain ⟨whole, -, -, followed, joined⟩ := kept path read
  exact ⟨read, spelled.1 ⟨path, read⟩, whole, rfl, followed, joined (by decide), unread,
    invalid unread⟩

end TreeTemplate.Path
