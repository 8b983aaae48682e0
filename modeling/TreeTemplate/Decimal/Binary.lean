import TreeTemplate.Decimal

/-!
# Binary floating point formats

The finite numbers of a binary format are the multiples `m * 2 ^ q` of powers of two with a bounded
number of bits in `m`.  This module rounds a fraction to the nearest of them, a half going to the
even neighbour, and gives the bits under which it is stored.

The bits of the nonnegative numbers of a format count through them in increasing order.  So the bits
of `m * 2 ^ q` are `m`, plus one block of `2 ^ (precision - 1)` for each step of `q` above its least
value, and an `m` that was rounded up to the next power of two needs no special case.
-/

namespace TreeTemplate

/-- The shape of a binary floating point format. -/
structure BinaryFormat where
  /-- How many bits the multiple has. -/
  precision : Nat
  /-- The least exponent of two, that of the smallest numbers. -/
  minExponent : Int
  /-- How many bits store the exponent. -/
  exponentBits : Nat

namespace BinaryFormat

/-- The format with 64 bits. -/
def double : BinaryFormat := ⟨53, -1074, 11⟩

/-- The format with 32 bits. -/
def single : BinaryFormat := ⟨24, -149, 8⟩

/-- How many numbers share one exponent: the multiples that need all bits of the precision. -/
def block (format : BinaryFormat) : Nat :=
  1 <<< (format.precision - 1)

/-- The bits of positive infinity, which come after those of all finite numbers. -/
def infinityBits (format : BinaryFormat) : Nat :=
  (1 <<< format.exponentBits - 1) * format.block

/-- The bit that marks negative numbers, above all others. -/
def signBit (format : BinaryFormat) : Nat :=
  1 <<< (format.exponentBits + format.precision - 1)

/-- The exponent of the greatest power of two that is at most a positive fraction. -/
def floorLog2 (x : Rat) : Int :=
  let guess := (Nat.log2 x.num.toNat : Int) - Nat.log2 x.den
  if (2 : Rat) ^ guess ≤ x then guess else guess - 1

/-- The nearest whole number to a nonnegative fraction, a half going to the even neighbour. -/
def roundHalfEven (x : Rat) : Nat :=
  let below := x.floor.toNat
  let rest := x - below
  if rest < 1 / 2 then below
  else if 1 / 2 < rest then below + 1
  else if below % 2 = 0 then below
  else below + 1

/-- The bits of the number of the format nearest to a positive fraction. -/
def nearestBits (format : BinaryFormat) (x : Rat) : Nat :=
  let exponent := max format.minExponent (floorLog2 x - (format.precision - 1))
  let multiple := roundHalfEven (x / (2 : Rat) ^ exponent)
  let steps := (exponent - format.minExponent).toNat
  min format.infinityBits (steps * format.block + multiple)

/-- The bits of the number of the format nearest to a decimal.  A decimal with more than 400 digits
before its point, or 400 zeros after it, is beyond the range of both formats, and is not
multiplied out. -/
def decimalBits (format : BinaryFormat) (d : Decimal) : Nat :=
  if d.digits = 0 then 0
  else
    let size := (Nat.toDigits 10 d.digits).length + d.exponent
    if 400 < size then format.infinityBits
    else if size < -400 then 0
    else format.nearestBits d.toRat

end BinaryFormat

/-- A nonnegative finite number as a multiple of a power of two. -/
structure Binary where
  multiple : Nat
  exponent : Int
deriving DecidableEq, Repr

namespace Binary

/-- The number `multiple * 2 ^ exponent`. -/
def toRat (b : Binary) : Rat :=
  b.multiple * (2 : Rat) ^ b.exponent

/-- The number of the format that has the given bits, the sign taken away. -/
def ofBits (format : BinaryFormat) (bits : Nat) : Binary :=
  if bits < format.block then ⟨bits, format.minExponent⟩
  else ⟨bits % format.block + format.block, format.minExponent + (bits / format.block - 1 : Nat)⟩

end Binary

end TreeTemplate
