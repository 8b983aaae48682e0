import TreeTemplate.Unicode.IdentStart
import TreeTemplate.Unicode.IdentContinue

/-!
# Names

Helpers are called by identifiers.  Elements and their attributes are named by tag names, which are
identifiers that may also hold `-` and `:` after the first character, as in `my-widget` and
`svg:rect`.

Letters, digits and marks of every script are admitted.  The characters below U+0080 are decided
without a table, so that what holds of them (no space, no quote, no bracket is part of a name) can
be read off the definitions.
-/

namespace TreeTemplate

/-- Whether a character may start a name: a letter of any script, or `_`. -/
def isNameStart (c : Char) : Bool :=
  if c.toNat < 0x80 then c.isAlpha || c == '_' else Unicode.identStart.has c

/-- Whether a character may follow in a name: also digits and combining marks. -/
def isNameContinue (c : Char) : Bool :=
  if c.toNat < 0x80 then c.isAlphanum || c == '_' else Unicode.identContinue.has c

/-- Whether a text is an identifier. -/
def isIdentifier (text : String) : Bool :=
  match text.toList with
  | [] => false
  | first :: rest => isNameStart first && rest.all isNameContinue

/-- Whether a character may follow in a tag name. -/
def isTagContinue (c : Char) : Bool :=
  isNameContinue c || c == '-' || c == ':'

/-- Whether a text is a tag name, which also names attributes. -/
def isTagName (text : String) : Bool :=
  match text.toList with
  | [] => false
  | first :: rest => isNameStart first && rest.all isTagContinue

/-- Every identifier is a tag name. -/
theorem isTagName_of_isIdentifier {text : String} (h : isIdentifier text) : isTagName text := by
  unfold isIdentifier at h
  unfold isTagName
  cases chars : text.toList with
  | nil => simp [chars] at h
  | cons first rest =>
    simp only [chars, Bool.and_eq_true, List.all_eq_true] at h ⊢
    refine ⟨h.1, ?_⟩
    intro c member
    simp [isTagContinue, h.2 c member]

end TreeTemplate
