import TreeTemplate.Text.Digits
import TreeTemplate.Decimal.Binary

/-!
# Numerals

The text of a number: an optional sign, then digits with an optional point among or beside them and
an optional exponent of ten, or one of the words `inf`, `infinity` and `nan` in any case.  At least
one digit stands before or after the point, and at least one in the exponent.

A numeral is read at the width of a floating point format, rounding to the nearest number.
-/

namespace TreeTemplate

/-- What the text of a number says. -/
inductive Numeral where
  | nan
  | infinity (negative : Bool)
  | finite (negative : Bool) (magnitude : Decimal)

namespace Numeral

/-- Splits off a sign; the answer says whether it is a minus. -/
def splitSign : List Char → Bool × List Char
  | '-' :: rest => (true, rest)
  | '+' :: rest => (false, rest)
  | text => (false, text)

/-- Reads an exponent of ten, which may be absent. -/
def exponent? : List Char → Option Int
  | [] => some 0
  | mark :: rest =>
    let (negative, digits) := splitSign rest
    if (mark == 'e' || mark == 'E') && !digits.isEmpty && digits.all Char.isDigit then
      let value : Int := Text.digitsValue digits
      some (if negative then -value else value)
    else none

/-- Splits off the digits after a point, if there is a point. -/
def splitFraction : List Char → List Char × List Char
  | '.' :: rest => rest.span Char.isDigit
  | text => ([], text)

/-- Reads a number without a sign. -/
def decimal? (text : List Char) : Option Decimal := do
  let (whole, rest) := text.span Char.isDigit
  let (fraction, rest) := splitFraction rest
  guard !(whole.isEmpty && fraction.isEmpty)
  let exponent ← exponent? rest
  pure ⟨Text.digitsValue (whole ++ fraction), exponent - fraction.length⟩

/-- Reads the text of a number. -/
def ofText? (text : String) : Option Numeral :=
  let (negative, rest) := splitSign text.toList
  let word := String.ofList (rest.map Char.toLower)
  if word == "nan" then some .nan
  else if word == "inf" || word == "infinity" then some (.infinity negative)
  else (decimal? rest).map (.finite negative)

/-- The bits of the numeral in a format, the sign bit standing above those of the magnitude. -/
def bits (format : BinaryFormat) : Numeral → Nat
  | .nan => format.infinityBits + format.block / 2
  | .infinity negative => signed negative format.infinityBits
  | .finite negative magnitude => signed negative (format.decimalBits magnitude)
where
  signed (negative : Bool) (magnitude : Nat) : Nat :=
    if negative then format.signBit + magnitude else magnitude

/-- The numeral as a floating point number with 64 bits. -/
def toFloat (numeral : Numeral) : Float :=
  Float.ofBits (UInt64.ofNat (numeral.bits .double))

/-- The numeral as a floating point number with 32 bits. -/
def toFloat32 (numeral : Numeral) : Float32 :=
  Float32.ofBits (UInt32.ofNat (numeral.bits .single))

end Numeral

end TreeTemplate
