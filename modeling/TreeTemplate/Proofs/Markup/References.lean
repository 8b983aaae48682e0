import TreeTemplate.Proofs.Value.Plain

/-!
# References in escaped text

Escaping leaves no delimiter in a text, and no ampersand but at the beginning of a reference.  What
was escaped comes back when the references are replaced, once from left to right, and a text of this
kind is the escaped form of just one text (`Markup.escapes_iff`): one that looks like a reference
already, or comes to look like one where the items of a list meet, is no exception.  So a value
written as a literal and the same value written unescaped have texts that differ in references only,
or no text for the same reason (`Node.toText_literal_escapes`).
-/

namespace TreeTemplate

namespace Markup

/-- The references that stand for characters with a meaning in markup. -/
def references : List (String × Char) :=
  [("&lt;", '<'), ("&gt;", '>'), ("&amp;", '&'), ("&quot;", '\x22'), ("&#x27;", '\x27')]

/-- Replaces references from left to right.  What is put in the place of one is not looked at
again. -/
def replaceFrom : List Char → List Char
  | '&' :: 'l' :: 't' :: ';' :: rest => '<' :: replaceFrom rest
  | '&' :: 'g' :: 't' :: ';' :: rest => '>' :: replaceFrom rest
  | '&' :: 'a' :: 'm' :: 'p' :: ';' :: rest => '&' :: replaceFrom rest
  | '&' :: 'q' :: 'u' :: 'o' :: 't' :: ';' :: rest => '\x22' :: replaceFrom rest
  | '&' :: '#' :: 'x' :: '2' :: '7' :: ';' :: rest => '\x27' :: replaceFrom rest
  | c :: rest => c :: replaceFrom rest
  | [] => []

/-- A text with its references replaced.  Unlike in `unescape`, an ampersand that begins none is a
character like any other, whatever comes behind it. -/
def replaceReferences (text : String) : String :=
  String.ofList (replaceFrom text.toList)

/-- Every ampersand begins a reference. -/
def Referenced (chars : List Char) : Prop :=
  ∀ behind, '&' :: behind <:+ chars →
    ∃ reference ∈ references, reference.1.toList <+: '&' :: behind

/-- A text stands for a plain one: it has no delimiters, all its ampersands begin references, and it
is the plain text once these are replaced. -/
structure Escapes (text plain : String) : Prop where
  noDelimiter : ∀ c ∈ text.toList, isDelimiter c = false
  referenced : Referenced text.toList
  replaced : replaceReferences text = plain

/-- The end of a text in which every ampersand starts a reference is such a text. -/
lemma Referenced.of_suffix {chars more : List Char} (h : Referenced chars)
    (inside : more <:+ chars) : Referenced more :=
  fun behind suffix => h behind (suffix.trans inside)

/-- A text starts a reference at every ampersand if its first character and its rest do. -/
lemma referenced_cons {c : Char} {rest : List Char} :
    Referenced (c :: rest) ↔
      (c = '&' → ∃ reference ∈ references, reference.1.toList <+: '&' :: rest)
        ∧ Referenced rest := by
  constructor
  · intro h
    refine ⟨?_, h.of_suffix (List.suffix_cons c rest)⟩
    rintro rfl
    exact h rest List.suffix_rfl
  · rintro ⟨head, tail⟩ behind suffix
    obtain here | further := List.suffix_cons_iff.1 suffix
    · cases here
      exact head rfl
    · exact tail behind further

/-- An escaped character has no ampersand but the one that begins its reference. -/
lemma Referenced.escapeChar_append (c : Char) {rest : List Char} (h : Referenced rest) :
    Referenced (escapeChar c ++ rest) := by
  unfold escapeChar
  split
  -- the last case is a character that stands for itself
  case h_6 amp _ _ => exact referenced_cons.2 ⟨fun here => absurd here amp, h⟩
  all_goals simp [referenced_cons, references, h]

/-- Every ampersand in escaped text starts a reference. -/
lemma referenced_escape (text : String) : Referenced (escape text).toList := by
  rw [toList_escape]
  induction text.toList with
  | nil =>
    intro behind suffix
    cases List.suffix_nil.1 suffix
  | cons c rest ih => exact ih.escapeChar_append c

/-- What a character is escaped to is replaced by that character. -/
lemma replaceFrom_escapeChar_append (c : Char) (rest : List Char) :
    replaceFrom (escapeChar c ++ rest) = c :: replaceFrom rest := by
  unfold escapeChar
  split
  case h_6 amp _ _ =>
    rw [List.singleton_append, replaceFrom]
    all_goals exact fun _ here => absurd here amp
  all_goals rfl

/-- What was escaped comes back when the references are replaced. -/
theorem replaceReferences_escape (text : String) : replaceReferences (escape text) = text := by
  have chars : ∀ chars : List Char, replaceFrom (chars.flatMap escapeChar) = chars := by
    intro chars
    induction chars with
    | nil => rfl
    | cons c rest ih => rw [List.flatMap_cons, replaceFrom_escapeChar_append, ih]
  rw [replaceReferences, toList_escape, chars, String.ofList_toList]

/-- No character is escaped to nothing. -/
lemma escapeChar_ne_nil (c : Char) : escapeChar c ≠ [] := by
  intro empty
  have back := replaceFrom_escapeChar_append c []
  rw [empty] at back
  cases back

/-- A character that is no delimiter and no ampersand is left as it is. -/
lemma escapeChar_eq_self {c : Char} (noDelimiter : isDelimiter c = false) (other : c ≠ '&') :
    escapeChar c = [c] := by
  unfold escapeChar
  split
  · exact absurd noDelimiter (by decide)
  · exact absurd noDelimiter (by decide)
  · exact absurd rfl other
  · exact absurd noDelimiter (by decide)
  · exact absurd noDelimiter (by decide)
  · rfl

/-- References are what their characters are escaped to. -/
lemma toList_reference {reference : String × Char} (among : reference ∈ references) :
    reference.1.toList = escapeChar reference.2 := by
  revert reference
  decide

/-- A text of this kind begins with an escaped character, whatever is behind it. -/
lemma exists_escapeChar_append {c : Char} {rest : List Char} (noDelimiter : isDelimiter c = false)
    (h : Referenced (c :: rest)) : ∃ plain behind, c :: rest = escapeChar plain ++ behind := by
  by_cases other : c = '&'
  · obtain ⟨reference, among, behind, begins⟩ := (referenced_cons.1 h).1 other
    exact ⟨reference.2, behind, by rw [other, ← begins, toList_reference among]⟩
  · exact ⟨c, rest, by rw [escapeChar_eq_self noDelimiter other, List.singleton_append]⟩

/-- A text without delimiters, whose ampersands all begin references, is an escaped text. -/
lemma exists_flatMap_escapeChar {chars : List Char}
    (noDelimiter : ∀ c ∈ chars, isDelimiter c = false) (h : Referenced chars) :
    ∃ plain : List Char, chars = plain.flatMap escapeChar := by
  -- by the length, since a reference is more than one character of the text
  induction length : chars.length using Nat.strongRecOn generalizing chars with
  | ind n ih =>
    cases chars with
    | nil => exact ⟨[], rfl⟩
    | cons c rest =>
      obtain ⟨first, behind, split⟩ :=
        exists_escapeChar_append (noDelimiter c List.mem_cons_self) h
      have suffix : behind <:+ c :: rest := ⟨escapeChar first, split.symm⟩
      have shorter : behind.length < n := by
        rw [← length, split, List.length_append]
        exact Nat.lt_add_of_pos_left (List.length_pos_iff.2 (escapeChar_ne_nil first))
      obtain ⟨plain, escaped⟩ := ih _ shorter (fun c among => noDelimiter c (suffix.mem among))
        (h.of_suffix suffix) rfl
      exact ⟨first :: plain, by rw [split, escaped, List.flatMap_cons]⟩

/-- The escaped form of a text, and no other, stands for it. -/
theorem escapes_iff {text plain : String} : Escapes text plain ↔ text = escape plain := by
  constructor
  · rintro ⟨noDelimiter, referenced, rfl⟩
    obtain ⟨chars, escaped⟩ := exists_flatMap_escapeChar noDelimiter referenced
    have whole : text = escape (String.ofList chars) := by
      apply String.toList_injective
      rw [toList_escape, String.toList_ofList, escaped]
    rw [whole, replaceReferences_escape]
  · rintro rfl
    exact ⟨fun c => notDelimiter_of_mem_escape, referenced_escape plain,
      replaceReferences_escape plain⟩

end Markup

/-- A value as a literal has a text whenever it has one unescaped, and fails with the same error if
not.  The text of the literal has no delimiters, all its ampersands begin references, and it is the
unescaped text once these are replaced. -/
theorem Node.toText_literal_escapes (value : Value) :
    Agree Markup.Escapes (literal value).toText (unescaped value).toText := by
  rw [toText_literal, toText_unescaped, value.toText_escape]
  cases value.toText id with
  | error error => exact .error error
  | ok plain => exact .ok (Markup.escapes_iff.2 rfl)

/-- Items of lists meet in what looks like a reference. -/
example :
    let value : Value := .list [.string "&l", .list [.string "t;<", .integer 5], .string "&amp;"]
    (Node.literal value).toText = .ok "&amp;lt;&lt;5&amp;amp;"
      ∧ (Node.unescaped value).toText = .ok "&lt;<5&amp;" :=
  ⟨rfl, rfl⟩

end TreeTemplate
