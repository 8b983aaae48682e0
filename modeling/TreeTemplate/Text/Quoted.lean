import TreeTemplate.Unicode.GraphemeExtend
import TreeTemplate.Unicode.Unprintable

/-!
# Quoted text

Text as it is shown in reports for developers: in double quotes, with escapes for the quote, the
backslash, and whatever would not show or would merge with its neighbour.  A single quote stands as
it is.
-/

namespace TreeTemplate.Text

/-- A character by its code point in hexadecimal. -/
def codePointEscape (c : Char) : List Char :=
  "\\u\x7b".toList ++ Nat.toDigits 16 c.toNat ++ ['}']

/-- The halfwidth sound marks of Katakana.  They extend a grapheme, but they are letters that stand
in a place of their own. -/
def soundMarks : Unicode.CodeRanges :=
  [(0xff9e, 0xff9f)]

/-- Whether a character would merge with the one before it. -/
def isMerging (c : Char) : Bool :=
  Unicode.graphemeExtend.has c && !soundMarks.has c

/-- A character inside quotes. -/
def quotedChar (c : Char) : List Char :=
  match c with
  | '\x00' => ['\\', '0']
  | '\t' => ['\\', 't']
  | '\r' => ['\\', 'r']
  | '\n' => ['\\', 'n']
  | '\x22' => ['\\', '\x22']
  | '\\' => ['\\', '\\']
  | c => if isMerging c || Unicode.unprintable.has c then codePointEscape c else [c]

/-- A text in double quotes. -/
def quoted (text : String) : String :=
  String.ofList ('\x22' :: text.toList.flatMap quotedChar ++ ['\x22'])

/-- Quoted texts in square brackets. -/
def quotedList (texts : List String) : String :=
  "[" ++ String.intercalate ", " (texts.map quoted) ++ "]"

end TreeTemplate.Text
