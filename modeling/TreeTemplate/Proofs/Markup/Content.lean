import TreeTemplate.Name
import TreeTemplate.Proofs.Markup.Unescape

/-!
# Contents of markup

What markup says without regard to how it was made: rows of texts and elements, where an attribute
has a value or is a bare name.  Texts side by side read as one, and an empty text does not show, so a
row is brought into a form without such texts (`Content.merged`).  This changes nothing in its
markup, and `Content.Row` describes the rows that it gives.
-/

namespace TreeTemplate

/-- A text, its references resolved, or an element. -/
inductive Content where
  | text (plain : String)
  | element (tag : String) (attrs : List (String × Option String)) (children : List Content)

namespace Content

/-- The markup of an attribute. -/
def attrMarkup : String × Option String → String
  | (name, none) => " " ++ name
  | (name, some value) => " " ++ name ++ "=\x22" ++ Markup.escape value ++ "\x22"

mutual

/-- The markup of a text or an element. -/
def markup : Content → String
  | .text plain => Markup.escape plain
  | .element tag attrs children =>
    "<" ++ tag ++ String.join (attrs.map attrMarkup) ++ ">" ++ rowMarkup children
      ++ ("</" ++ tag ++ ">")
termination_by structural content => content

/-- The markup of a row. -/
def rowMarkup : List Content → String
  | [] => ""
  | content :: rest => content.markup ++ rowMarkup rest
termination_by structural row => row

end

/-- The markup of rows put together is that of each, one after the other. -/
lemma rowMarkup_append (row more : List Content) :
    rowMarkup (row ++ more) = rowMarkup row ++ rowMarkup more := by
  induction row with
  | nil => exact String.empty_append.symm
  | cons content rest ih => rw [List.cons_append, rowMarkup, rowMarkup, ih, String.append_assoc]

/-- Puts a text in front of a row.  An empty one is dropped, and a text that starts the row is
continued. -/
def addText (plain : String) (row : List Content) : List Content :=
  if plain = "" then row
  else
    match row with
    | .text next :: rest => .text (plain ++ next) :: rest
    | row => .text plain :: row

/-- A row with texts side by side made one, and without empty texts. -/
def merged : List Content → List Content
  | [] => []
  | .text plain :: rest => addText plain (merged rest)
  | .element tag attrs children :: rest => .element tag attrs children :: merged rest

/-- A text in front of a row is escaped in front of its markup, also where it merges with one. -/
lemma rowMarkup_addText (plain : String) (row : List Content) :
    rowMarkup (addText plain row) = Markup.escape plain ++ rowMarkup row := by
  unfold addText
  split
  · rename_i empty
    rw [empty]
    exact String.empty_append.symm
  · split
    · rw [rowMarkup, rowMarkup, markup, markup, Markup.escape_append, String.append_assoc]
    · rw [rowMarkup, markup]

/-- To merge texts does not change the markup. -/
lemma rowMarkup_merged (row : List Content) : rowMarkup (merged row) = rowMarkup row := by
  induction row with
  | nil => rfl
  | cons content rest ih =>
    cases content with
    | text plain => rw [merged, rowMarkup_addText, ih, rowMarkup, markup]
    | element tag attrs children => rw [merged, rowMarkup, rowMarkup, ih]

/-- Rows with valid names, in which no text is empty or beside another. -/
inductive Row : List Content → Prop where
  | nil : Row []
  | element {tag : String} {attrs : List (String × Option String)} {children rest : List Content} :
    isTagName tag → (∀ attr ∈ attrs, isTagName attr.1) → Row children → Row rest →
    Row (.element tag attrs children :: rest)
  | last {plain : String} : plain ≠ "" → Row [.text plain]
  | text {plain tag : String} {attrs : List (String × Option String)}
    {children rest : List Content} :
    plain ≠ "" → Row (.element tag attrs children :: rest) →
    Row (.text plain :: .element tag attrs children :: rest)

/-- A text may be put in front of a row. -/
lemma Row.addText {row : List Content} (h : Row row) (plain : String) : Row (addText plain row) := by
  unfold Content.addText
  split
  · exact h
  · rename_i nonempty
    have longer : ∀ next : String, plain ++ next ≠ "" := fun next empty =>
      nonempty (String.append_eq_empty_iff.1 empty).1
    cases h with
    | nil => exact .last nonempty
    | element tag attrs children rest => exact .text nonempty (.element tag attrs children rest)
    | last => exact .last (longer _)
    | text _ rest => exact .text (longer _) rest

/-- A part of a row that may be merged: a text, or an element with valid names and a row inside. -/
def Sound : Content → Prop
  | .text _ => True
  | .element tag attrs children =>
    isTagName tag ∧ (∀ attr ∈ attrs, isTagName attr.1) ∧ Row children

/-- Sound contents with their texts merged are a row. -/
lemma row_merged {row : List Content} (sound : ∀ content ∈ row, content.Sound) :
    Row (merged row) := by
  induction row with
  | nil => exact .nil
  | cons content rest ih =>
    obtain ⟨head, tail⟩ := List.forall_mem_cons.1 sound
    cases content with
    | text plain => exact (ih tail).addText plain
    | element tag attrs children =>
      obtain ⟨name, names, inside⟩ := head
      exact .element name names inside (ih tail)

end Content

end TreeTemplate
