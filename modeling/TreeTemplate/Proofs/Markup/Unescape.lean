import TreeTemplate.Proofs.Markup.Delimiters

/-!
# Reading escaped text

`Markup.unescape` resolves the character references that escaping writes.  It reads a text once from
left to right: a reference begins at `&` and ends at the next `;`, and what it stands for is not
looked at again.  So an escaped text is read back as it was (`Markup.unescape_escape`), be there
references in it or not.
-/

namespace TreeTemplate.Markup

/-- What a reference stands for by its name.  One that escaping does not write stands for itself. -/
def referent : List Char → List Char
  | ['l', 't'] => ['<']
  | ['g', 't'] => ['>']
  | ['a', 'm', 'p'] => ['&']
  | ['q', 'u', 'o', 't'] => ['\x22']
  | ['#', 'x', '2', '7'] => ['\x27']
  | name => '&' :: name ++ [';']

/-- Reads a text, given what has been read of the name of a reference, if one has begun. -/
def unescapeFrom : Option (List Char) → List Char → List Char
  | none, [] => []
  | none, c :: rest =>
    if c = '&' then unescapeFrom (some []) rest else c :: unescapeFrom none rest
  | some name, [] => '&' :: name
  | some name, c :: rest =>
    if c = ';' then referent name ++ unescapeFrom none rest
    else unescapeFrom (some (name ++ [c])) rest

/-- A text with its references resolved. -/
def unescape (text : String) : String :=
  String.ofList (unescapeFrom none text.toList)

/-- What a character is escaped to is read back as that character. -/
lemma unescapeFrom_escapeChar (c : Char) (rest : List Char) :
    unescapeFrom none (escapeChar c ++ rest) = c :: unescapeFrom none rest := by
  unfold escapeChar
  split
  · rfl
  · rfl
  · rfl
  · rfl
  · rfl
  · rename_i amp _ _
    rw [List.singleton_append, unescapeFrom, if_neg amp]

/-- A text is escaped character by character. -/
lemma toList_escape (text : String) : (escape text).toList = text.toList.flatMap escapeChar :=
  String.toList_ofList

/-- What was escaped is read back. -/
theorem unescape_escape (text : String) : unescape (escape text) = text := by
  have chars : ∀ chars : List Char, unescapeFrom none (chars.flatMap escapeChar) = chars := by
    intro chars
    induction chars with
    | nil => rfl
    | cons c rest ih => rw [List.flatMap_cons, unescapeFrom_escapeChar, ih]
  rw [unescape, toList_escape, chars, String.ofList_toList]

/-- Texts put together are escaped one after the other. -/
lemma escape_append (text other : String) : escape (text ++ other) = escape text ++ escape other := by
  apply String.toList_injective
  rw [String.toList_append, toList_escape, toList_escape, toList_escape, String.toList_append,
    List.flatMap_append]

/-- Texts in a row are escaped one by one. -/
lemma escape_join (texts : List String) :
    escape (String.join texts) = String.join (texts.map escape) := by
  induction texts with
  | nil => rfl
  | cons text texts ih => rw [List.map_cons, String.join_cons, String.join_cons, escape_append, ih]

/-- A text is left as it is if each of its characters is. -/
lemma escape_eq_self {text : String} (plain : ∀ c ∈ text.toList, escapeChar c = [c]) :
    escape text = text := by
  rw [escape, List.flatMap_congr plain, List.flatMap_singleton', String.ofList_toList]

/-- Nothing is left of a text by escaping only if nothing was there. -/
lemma escape_ne_empty {text : String} (nonempty : text ≠ "") : (escape text).toList ≠ [] := by
  intro empty
  apply nonempty
  rw [← unescape_escape text, unescape, empty]
  rfl

/-- No character of escaped text is a delimiter. -/
lemma notDelimiter_of_mem_escape {text : String} {c : Char} (member : c ∈ (escape text).toList) :
    isDelimiter c = false := by
  have none : (escape text).toList.filter isDelimiter = [] := delimiters_escape text
  exact Bool.eq_false_iff.2 (List.filter_eq_nil_iff.1 none c member)

end TreeTemplate.Markup
