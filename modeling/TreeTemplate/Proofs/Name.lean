import Mathlib.Data.List.Basic
import TreeTemplate.Name

/-!
# Characters of names

A name is never empty, and it holds letters, digits, marks and `_` only.  Below U+0080 these are
decided without a table, so that a delimiter is seen to be none of them by evaluation.
-/

namespace TreeTemplate

/-- Whether a character may stand anywhere in an identifier. -/
def isNamePart (c : Char) : Bool :=
  isNameStart c || isNameContinue c

/-- An identifier is not empty, and all its characters may stand in names. -/
lemma chars_of_isIdentifier {text : String} (name : isIdentifier text) :
    text.toList ≠ [] ∧ ∀ c ∈ text.toList, isNamePart c := by
  unfold isIdentifier at name
  cases chars : text.toList with
  | nil => simp [chars] at name
  | cons first rest =>
    simp only [chars, Bool.and_eq_true, List.all_eq_true] at name
    refine ⟨List.cons_ne_nil first rest, List.forall_mem_cons.2 ⟨?_, fun c member => ?_⟩⟩
    · rw [isNamePart, name.1, Bool.true_or]
    · rw [isNamePart, name.2 c member, Bool.or_true]

/-- A digit may stand in a name. -/
lemma isNamePart_of_isDigit {c : Char} (digit : c.isDigit) : isNamePart c := by
  have small : c.toNat < 0x80 := by
    simp only [Char.isDigit, Bool.and_eq_true, decide_eq_true_eq] at digit
    have le := UInt32.le_iff_toNat_le.1 digit.2
    have eq : c.toNat = c.val.toNat := rfl
    rw [eq]
    exact Nat.lt_of_le_of_lt le (by decide)
  simp [isNamePart, isNameContinue, small, Char.isAlphanum, digit]

/-- A character that is no part of names is in no identifier. -/
lemma notMem_of_isIdentifier {text : String} {c : Char} (name : isIdentifier text)
    (foreign : isNamePart c = false) : c ∉ text.toList := by
  intro member
  have part := (chars_of_isIdentifier name).2 c member
  rw [foreign] at part
  cases part

/-- Whether a character may stand anywhere in a tag name. -/
def isTagPart (c : Char) : Bool :=
  isNameStart c || isTagContinue c

/-- All characters of a tag name may stand in tags. -/
lemma chars_of_isTagName {text : String} (name : isTagName text) :
    ∀ c ∈ text.toList, isTagPart c := by
  unfold isTagName at name
  cases chars : text.toList with
  | nil => exact List.forall_mem_nil _
  | cons first rest =>
    simp only [chars, Bool.and_eq_true, List.all_eq_true] at name
    refine List.forall_mem_cons.2 ⟨?_, fun c member => ?_⟩
    · rw [isTagPart, name.1, Bool.true_or]
    · rw [isTagPart, name.2 c member, Bool.or_true]

/-- A character of a tag name is none that cannot stand there. -/
lemma ne_of_isTagPart {c other : Char} (part : isTagPart c) (foreign : isTagPart other = false) :
    c ≠ other := by
  rintro rfl
  rw [foreign] at part
  cases part

end TreeTemplate
