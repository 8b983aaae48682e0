import TreeTemplate.Path
import TreeTemplate.Proofs.Name
import TreeTemplate.Proofs.Sequence

/-!
# Characters of paths

A valid path holds characters of names, dots and slashes only, and does not start with a slash.  So
what stands around a path in a token can be told from it.  The text that a path was read from is
its text (`Path.text_of_ofText?`).
-/

namespace TreeTemplate

/-- Whether a character may stand anywhere in a path. -/
def isPathPart (c : Char) : Bool :=
  isNamePart c || c == '.' || c == '/'

namespace Path

/-- The characters of a text are those of markers in front and those behind the markers. -/
lemma mem_dropMarkers {c : Char} {text : List Char} (member : c ∈ text) :
    c = '.' ∨ c = '/' ∨ c ∈ dropMarkers text := by
  fun_induction dropMarkers text with
  | case1 rest ih =>
    simp only [List.mem_cons] at member
    rcases member with rfl | rfl | rfl | member
    · exact .inl rfl
    · exact .inl rfl
    · exact .inr (.inl rfl)
    · exact ih member
  | case2 text _ => exact .inr (.inr member)

/-- A segment is not empty, and all its characters may stand in names. -/
lemma chars_of_isSegment {text : String} (segment : isSegment text) :
    text.toList ≠ [] ∧ ∀ c ∈ text.toList, isNamePart c := by
  rw [isSegment, Bool.or_eq_true] at segment
  rcases segment with name | digits
  · exact chars_of_isIdentifier name
  · simp only [Text.isDigits, Bool.and_eq_true, bne_iff_ne, List.all_eq_true] at digits
    refine ⟨fun empty => digits.1 (String.toList_eq_nil_iff.1 empty), fun c member => ?_⟩
    exact isNamePart_of_isDigit (digits.2 c member)

/-- The characters of a text cut into valid segments are dots and characters of names. -/
lemma chars_of_segments {text : List Char} (segments : (segmentsOf text).all isSegment) :
    ∀ c ∈ text, c = '.' ∨ isNamePart c := by
  intro c member
  have whole : ['.'].intercalate (text.splitOn '.') = text := List.intercalate_splitOn '.'
  rw [← whole] at member
  obtain dot | ⟨chars, among, inside⟩ := mem_intercalate member
  · exact .inl dot
  · have segment : isSegment (String.ofList chars) :=
      List.all_eq_true.1 segments _ (List.mem_map_of_mem among)
    exact .inr ((chars_of_isSegment segment).2 c (by simpa using inside))

/-- There is a segment, so there is some text. -/
lemma ne_nil_of_segments {text : List Char} (segments : (segmentsOf text).all isSegment) :
    text ≠ [] := by
  rintro rfl
  revert segments
  decide

/-- A dot between two texts cuts them apart. -/
lemma segmentsOf_append_dot (text more : List Char) :
    segmentsOf (text ++ '.' :: more) = segmentsOf text ++ segmentsOf more := by
  rw [segmentsOf, List.splitOn_append_cons_self, List.map_append]
  rfl

/-- The first dot of a text that starts with one ends an empty segment. -/
lemma segmentsOf_dot (rest : List Char) : segmentsOf ('.' :: rest) = "" :: segmentsOf rest :=
  segmentsOf_append_dot [] rest

/-- A text is a valid path if it is `this` or is cut into valid segments behind its markers. -/
lemma ofText?_isSome_iff {text : String} :
    (ofText? text).isSome ↔
      text = "this" ∨ (segmentsOf (dropMarkers text.toList)).all isSegment := by
  unfold ofText?
  split
  · simp [*]
  · split <;> simp [*]

/-- The text of a valid path starts with something else than a slash and holds nothing but
characters of names, dots and slashes. -/
lemma chars_of_ofText? {text : String} (valid : (ofText? text).isSome) :
    ∃ first rest, text.toList = first :: rest ∧ first ≠ '/'
      ∧ ∀ c ∈ first :: rest, isPathPart c := by
  rcases ofText?_isSome_iff.1 valid with rfl | segments
  · exact ⟨'t', ['h', 'i', 's'], rfl, by decide, List.all_eq_true.1 rfl⟩
  · cases chars : text.toList with
    | nil =>
      rw [chars] at segments
      exact absurd rfl (ne_nil_of_segments segments)
    | cons first rest =>
      rw [chars] at segments
      refine ⟨first, rest, rfl, ?_, fun c member => ?_⟩
      · rintro rfl
        -- no marker starts with a slash, so it would start a segment
        rw [dropMarkers] at segments
        · rcases chars_of_segments segments '/' List.mem_cons_self with dot | part
          · cases dot
          · revert part
            decide
        · exact nofun
      · obtain rfl | rfl | member := mem_dropMarkers member
        · rfl
        · rfl
        · obtain rfl | part := chars_of_segments segments c member
          · rfl
          · rw [isPathPart, part, Bool.true_or, Bool.true_or]

/-- A character that is no part of paths is in no valid path. -/
lemma notMem_of_ofText? {text : String} {c : Char} (valid : (ofText? text).isSome)
    (foreign : isPathPart c = false) : c ∉ text.toList := by
  obtain ⟨first, rest, chars, -, parts⟩ := chars_of_ofText? valid
  intro member
  rw [chars] at member
  have part := parts c member
  rw [foreign] at part
  cases part

/-- The pieces of a text between its dots are joined to that text. -/
lemma intercalate_segmentsOf (text : List Char) :
    (String.intercalate "." (segmentsOf text)).toList = text := by
  have pieces : (text.splitOn '.').map (String.toList ∘ String.ofList) = text.splitOn '.' := by
    simp
  rw [segmentsOf, String.toList_intercalate, List.map_map, pieces]
  exact List.intercalate_splitOn '.'

/-- A path gives back the text it was read from. -/
theorem text_of_ofText? {text : String} {path : Path} (found : ofText? text = some path) :
    path.text = text := by
  unfold ofText? at found
  split at found
  · rename_i this
    cases found
    exact this.symm
  · split at found
    · cases found
      apply String.toList_inj.1
      split
      · rename_i rest chars
        rw [Path.text, String.toList_append, intercalate_segmentsOf, chars]
        rfl
      · rw [Path.text, intercalate_segmentsOf]
    · cases found

end Path

end TreeTemplate
