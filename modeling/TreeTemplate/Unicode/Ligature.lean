import TreeTemplate.Unicode.Columns

/-!
# Ligatures

In some scripts a character is drawn as one with the characters after it, and then takes another
number of columns than alone.  A text is measured from its end, and all that the rest of the text
can contribute to such a drawing is one of a few cases, its `Joint`.

The ligatures are lam with alef in Arabic, alef with lamed in Hebrew, a letter under a letter in
Khmer, a with i and ya in Buginese, two consonants in Tifinagh, two tone letters in Lisu and one
pair of letters in Old Turkic.  All but the Arabic one pass over invisible marks and joiners.
-/

namespace TreeTemplate.Unicode

/-- What the text after a place offers to the character before it.  A case whose name ends in
`Joined` is the one without, with a joiner in front. -/
inductive Joint where
  /-- Nothing to be drawn with. -/
  | free
  /-- An Arabic alef. -/
  | alef
  /-- A Hebrew lamed. -/
  | lamed
  | lamedJoined
  /-- A Khmer letter that can stand under another. -/
  | khmerLetter
  /-- A Buginese ya. -/
  | ya
  | yaJoined
  /-- A Buginese i with a joined ya. -/
  | vowelYa
  /-- A Tifinagh consonant. -/
  | tifinagh
  | tifinaghJoined
  /-- A Tifinagh consonant after the sign that joins consonants. -/
  | tifinaghPair
  /-- A tone letter that closes a pair in Lisu. -/
  | lisuTone
  /-- An Old Turkic orkhon i. -/
  | orkhonI
  | orkhonIJoined
  /-- A character in its form as an emoji. -/
  | emoji
  | emojiJoined
  deriving DecidableEq

/-- The consonants of Tifinagh. -/
def tifinaghConsonants : CodeRanges :=
  [(0x2d31, 0x2d65), (0x2d6f, 0x2d6f)]

/-- The letters that offer something to the character before them. -/
def joints : List (CodeRanges × Joint) :=
  [([(0x5dc, 0x5dc)], .lamed),
   ([(0x622, 0x623), (0x625, 0x625), (0x627, 0x627), (0x671, 0x673), (0x675, 0x675),
     (0x773, 0x774), (0x870, 0x882)], .alef),
   ([(0x1780, 0x1782), (0x1784, 0x1787), (0x1789, 0x178c), (0x178e, 0x1793), (0x1795, 0x1798),
     (0x179b, 0x179d), (0x17a0, 0x17a0), (0x17a2, 0x17a2), (0x17a7, 0x17a7), (0x17ab, 0x17ac),
     (0x17af, 0x17af)], .khmerLetter),
   ([(0x1a10, 0x1a10)], .ya),
   (tifinaghConsonants, .tifinagh),
   ([(0xa4fc, 0xa4fd)], .lisuTone),
   ([(0x10c03, 0x10c03)], .orkhonI)]

/-- A step of a ligature: one of the letters, in front of a joint. -/
structure Ligature where
  /-- What the text after the letter offers. -/
  joint : Joint
  /-- The letters that take it up. -/
  letters : CodeRanges
  /-- How many columns the letter adds; a letter that moves under another takes one away. -/
  columns : Int
  /-- What the letter offers in turn. -/
  result : Joint

/-- All steps of ligatures. -/
def ligatures : List Ligature :=
  [⟨.alef, [(0x644, 0x644), (0x6b5, 0x6b8), (0x76a, 0x76a), (0x8a6, 0x8a6), (0x8c7, 0x8c7)], 0,
    .free⟩,
   ⟨.lamedJoined, [(0x5d0, 0x5d0)], 0, .free⟩,
   ⟨.khmerLetter, [(0x17d2, 0x17d2)], -1, .free⟩,
   ⟨.yaJoined, [(0x1a17, 0x1a17)], 0, .vowelYa⟩,
   ⟨.vowelYa, [(0x1a15, 0x1a15)], 0, .free⟩,
   ⟨.tifinagh, [(0x2d7f, 0x2d7f)], 1, .tifinaghPair⟩,
   ⟨.tifinaghJoined, [(0x2d7f, 0x2d7f)], 1, .tifinaghPair⟩,
   ⟨.tifinaghJoined, tifinaghConsonants, 0, .free⟩,
   ⟨.tifinaghPair, tifinaghConsonants, -1, .free⟩,
   ⟨.lisuTone, [(0xa4f8, 0xa4fb)], 0, .free⟩,
   ⟨.orkhonIJoined, [(0x10c32, 0x10c32)], 0, .free⟩]

/-- The invisible marks that ligatures pass over. -/
def invisibleMarks : CodeRanges :=
  [(0x34f, 0x34f), (0x17b4, 0x17b5), (0x180b, 0x180d), (0x180f, 0x180f), (0xfe00, 0xfe0f),
   (0xe0100, 0xe01ef)]

namespace Joint

/-- What a character offers to the one before it. -/
def ofChar (c : Char) : Joint :=
  match joints.find? fun entry => entry.1.has c with
  | some (_, joint) => joint
  | none => .free

/-- What is offered with a joiner in front. -/
def joined : Joint → Joint
  | .lamed => .lamedJoined
  | .ya => .yaJoined
  | .tifinagh => .tifinaghJoined
  | .orkhonI => .orkhonIJoined
  | .emoji => .emojiJoined
  | .free | .alef | .emojiJoined => .free
  | joint => joint

/-- Whether what is offered is still there before a mark: an alef before all that letters join
across, a joint of the other scripts before an invisible mark. -/
def passes (joint : Joint) (c : Char) : Bool :=
  match joint with
  | .free | .emoji | .emojiJoined => false
  | .alef => zeroColumns.has c && !apartColumns.has c
  | _ => invisibleMarks.has c

/-- The step of a ligature that a character makes in front of a joint. -/
def ligature? (joint : Joint) (c : Char) : Option Ligature :=
  ligatures.find? fun ligature => ligature.joint == joint && ligature.letters.has c

end Joint

end TreeTemplate.Unicode
