import TreeTemplate.Decimal.Binary

/-!
# Shortest decimals

A floating point number is written with the fewest digits that read back as the same number, and of
the decimals with so many digits the nearest one is taken.  If two are equally near, the greater is.

The fractions that round to a number form an interval, which contains its ends if the number is an
even multiple.  The search goes through the grids of powers of ten from coarse to fine, and on each
of them looks at the two points next to the number; the first grid with a point in the interval has
the shortest decimals.
-/

namespace TreeTemplate

/-- An interval of fractions around a number, with or without its ends. -/
structure RoundingInterval where
  value : Rat
  low : Rat
  high : Rat
  closed : Bool

namespace RoundingInterval

/-- Whether a fraction lies in the interval. -/
def has (interval : RoundingInterval) (x : Rat) : Bool :=
  if interval.closed then interval.low ≤ x && x ≤ interval.high
  else interval.low < x && x < interval.high

/-- The point next to the value on the grid of a power of ten, if one lies in the interval: the
nearer of the two neighbours, and the upper one at equal distance. -/
def gridPoint? (interval : RoundingInterval) (exponent : Int) : Option Nat :=
  let unit := (10 : Rat) ^ exponent
  let below := (interval.value / unit).floor.toNat
  let above := below + 1
  match interval.has (below * unit), interval.has (above * unit) with
  | true, true =>
    if interval.value - below * unit < above * unit - interval.value then some below else some above
  | true, false => some below
  | false, true => some above
  | false, false => none

/-- The first grid point found, going down from a power of ten by so many steps. -/
def search (interval : RoundingInterval) : Nat → Int → Decimal
  | 0, exponent => ⟨(interval.value / (10 : Rat) ^ exponent).floor.toNat, exponent⟩
  | steps + 1, exponent =>
    match interval.gridPoint? exponent with
    | some digits => ⟨digits, exponent⟩
    | none => interval.search steps (exponent - 1)

/-- The fractions that round to a number of a format.  Below a power of two the next number is at
half the distance. -/
def ofBinary (format : BinaryFormat) (b : Binary) : RoundingInterval :=
  let unit := (2 : Rat) ^ b.exponent
  let narrow := b.multiple = format.block ∧ format.minExponent < b.exponent
  { value := b.toRat
    low := b.toRat - (if narrow then unit / 4 else unit / 2)
    high := b.toRat + unit / 2
    closed := b.multiple % 2 = 0 }

end RoundingInterval

/-- The shortest decimal that reads back as a number of a format.

The search starts at a power of ten above the number: 0.30103 is a little more than the decimal
logarithm of two.  Seventeen digits always suffice for the formats in use. -/
def Decimal.shortest (format : BinaryFormat) (b : Binary) : Decimal :=
  if b.multiple = 0 then ⟨0, 0⟩
  else
    let size := (Nat.log2 b.multiple : Int) + 1 + b.exponent
    (RoundingInterval.ofBinary format b).search 20 (size * 30103 / 100000 + 1)

/-- The text of a floating point number: the shortest decimal in positional notation, a sign in
front of negative numbers and of the negative zero, and words for what is no number. -/
def floatText (x : Float) : String :=
  if x.isNaN then "NaN"
  else
    let format := BinaryFormat.double
    let bits := x.toBits.toNat
    let magnitude := bits % format.signBit
    let sign := if bits < format.signBit then "" else "-"
    if magnitude = format.infinityBits then sign ++ "inf"
    else sign ++ (Decimal.shortest format (.ofBits format magnitude)).positional

end TreeTemplate
