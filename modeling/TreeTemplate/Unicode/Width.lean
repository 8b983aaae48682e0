import TreeTemplate.Unicode.Columns
import TreeTemplate.Unicode.Ligature

/-!
# Column widths

How many columns a text takes in a terminal.  Marks that are drawn onto the character before them
take none, wide East Asian characters take two, and all others take one.  Ligatures take less than
their letters do, and a digit in its form as an emoji takes two.

Of the characters with a form as an emoji only those are known that can stand in a name: the digits
and the information sign U+2139.
-/

namespace TreeTemplate.Unicode

/-- The columns a character takes alone. -/
def charWidth (c : Char) : Nat :=
  if c.toNat ≤ 0xa0 then 1
  else if zeroColumns.has c then 0
  else if twoColumns.has c then 2
  else 1

/-- What the text after a place does to the character before it. -/
structure Following where
  /-- What the character can be drawn as one with. -/
  joint : Joint
  /-- Whether the text starts with the selector U+FE0F, which asks for the form as an emoji. -/
  selector : Bool

/-- At the end of a text nothing follows. -/
def Following.nothing : Following :=
  ⟨.free, false⟩

/-- Whether a character has a form as an emoji. -/
def hasEmojiForm (c : Char) : Bool :=
  c.isDigit || c == '\u2139'

/-- How many columns a character adds to those of the text after it, and what it does, with that
text, to the character before it. -/
def widthBefore (c : Char) (next : Following) : Int × Following :=
  if next.selector && hasEmojiForm c then
    (if next.joint = .emojiJoined then 0 else 2, ⟨.emoji, false⟩)
  else if c.toNat ≤ 0xa0 then (1, .nothing)
  else if c = '\ufe0f' then (0, ⟨next.joint, true⟩)
  else if c = '\u200d' then (0, ⟨next.joint.joined, false⟩)
  else if next.joint.passes c then (0, ⟨next.joint, false⟩)
  else match next.joint.ligature? c with
    | some ligature => (ligature.columns, ⟨ligature.result, false⟩)
    | none => (charWidth c, ⟨.ofChar c, false⟩)

/-- A character up to U+00A0 takes one column if nothing follows it, and does nothing itself. -/
theorem widthBefore_nothing {c : Char} (plain : c.toNat ≤ 0xa0) :
    widthBefore c .nothing = (1, .nothing) := by
  simp [widthBefore, Following.nothing, plain]

/-- The columns of a row of characters, and what it does to a character before it. -/
def widthOfRow (chars : List Char) : Int × Following :=
  chars.foldr (fun c row => ((widthBefore c row.2).1 + row.1, (widthBefore c row.2).2))
    (0, .nothing)

/-- The columns a text takes. -/
def textWidth (text : String) : Nat :=
  (widthOfRow text.toList).1.toNat

/-- Characters up to U+00A0 take one column each. -/
theorem widthOfRow_eq_length {chars : List Char} (plain : ∀ c ∈ chars, c.toNat ≤ 0xa0) :
    widthOfRow chars = ((chars.length : Int), Following.nothing) := by
  induction chars with
  | nil => rfl
  | cons c rest ih =>
    have row := ih fun d member => plain d (List.mem_cons_of_mem c member)
    have first := widthBefore_nothing (plain c List.mem_cons_self)
    unfold widthOfRow at row ⊢
    rw [List.foldr_cons, row, first, List.length_cons]
    simp [Int.add_comm]

end TreeTemplate.Unicode
