/-!
# Decimals

A decimal is a whole number of units of a power of ten.  It is written in positional notation, never
with an exponent.
-/

namespace TreeTemplate

/-- The number `digits * 10 ^ exponent`. -/
structure Decimal where
  digits : Nat
  exponent : Int
deriving DecidableEq, Repr

namespace Decimal

/-- The number a decimal stands for. -/
def toRat (d : Decimal) : Rat :=
  d.digits * (10 : Rat) ^ d.exponent

/-- Positional notation.  Whole units are followed by zeros and have no point; otherwise the point
splits off the last digits, with zeros in front so that one digit at least stands before it. -/
def positional (d : Decimal) : String :=
  let digits := Nat.toDigits 10 d.digits
  match d.exponent with
  | .ofNat zeros => String.ofList (digits ++ List.replicate zeros '0')
  | .negSucc places =>
    let padded := List.replicate (places + 2 - digits.length) '0' ++ digits
    let whole := padded.length - (places + 1)
    String.ofList (padded.take whole ++ '.' :: padded.drop whole)

end Decimal

end TreeTemplate
