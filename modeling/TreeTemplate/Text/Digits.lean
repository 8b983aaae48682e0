/-!
# Digits

Runs of the ASCII digits and the numbers they stand for.
-/

namespace TreeTemplate.Text

/-- Whether a text is a nonempty run of ASCII digits. -/
def isDigits (text : String) : Bool :=
  text != "" && text.toList.all Char.isDigit

/-- The number that digits stand for, the most significant first. -/
def digitsValue (digits : List Char) : Nat :=
  digits.foldl (fun value digit => value * 10 + (digit.toNat - 0x30)) 0

/-- The number a nonempty run of digits stands for; leading zeros do not matter. -/
def index? (text : String) : Option Nat :=
  if isDigits text then some (digitsValue text.toList) else none

end TreeTemplate.Text
