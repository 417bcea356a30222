import ScriptStudio.Number.Binary64

/-!
# Decimal fractions and 64-bit numbers

`Binary64.ofDecimal` rounds a decimal fraction. `Binary64.shortestOfRank` goes back: the fewest
digits that are rounded to the given number, and of the fractions with so few digits the nearest.
-/

namespace ScriptStudio

/-- The fraction `digits * 10 ^ exponent`. -/
structure Decimal where
  digits : Nat
  exponent : Int
deriving DecidableEq

namespace Decimal

/-- A positive power of ten above the line of a fraction, or a negative one below it. -/
def ratio (digits : Nat) (exponent : Int) (scale : Nat) : Nat × Nat :=
  if 0 ≤ exponent then (digits * Nat.pow 10 exponent.toNat * scale, 1)
  else (digits * scale, Nat.pow 10 (-exponent).toNat)

/-- The rank nearest to a decimal fraction. -/
def rank (decimal : Decimal) : Nat :=
  let (numerator, denominator) := ratio decimal.digits decimal.exponent Binary64.unitsPerOne
  Binary64.rankOfRatio numerator denominator

/-- Moves the zeros at the end of the digits into the exponent. At most `fuel` of them. -/
def stripZeros : (fuel : Nat) → Decimal → Decimal
  | 0, decimal => decimal
  | fuel + 1, decimal =>
    if decimal.digits ≠ 0 && decimal.digits % 10 == 0 then
      stripZeros fuel ⟨decimal.digits / 10, decimal.exponent + 1⟩
    else decimal

end Decimal

namespace Binary64

/-- The 64-bit number nearest to a decimal fraction whose digits number at most `length`. Far
outside of the range of the format no power of ten is computed. -/
def ofDecimal (negative : Bool) (length : Nat) (decimal : Decimal) : Binary64 :=
  if decimal.digits = 0 then zero negative
  else if 400 < decimal.exponent + length then
    if 400 < decimal.exponent then .infinite negative else ofRank negative decimal.rank
  else if decimal.exponent + length < -400 then zero negative
  else ofRank negative decimal.rank

/-- The exponent of the leading decimal digit of a positive magnitude in units. -/
def leadingExponent (units : Nat) : Int :=
  let guess := Int.fdiv (((units.log2 : Int) - 1074) * 30103) 100000
  let (numerator, denominator) := Decimal.ratio units (-(guess + 1)) 1
  if unitsPerOne * denominator ≤ numerator then guess + 1 else guess

/-- The two neighbours of a magnitude among the multiples of `10 ^ exponent`, the nearer one first.
Of two equally near ones the even comes first. -/
def gridNeighbours (units : Nat) (exponent : Int) : List Decimal :=
  let (numerator, denominator) := Decimal.ratio units (-exponent) 1
  let scale := denominator * unitsPerOne
  let below := numerator / scale
  let nearest := roundQuotient numerator scale
  let other := if nearest = below then below + 1 else below
  [⟨nearest, exponent⟩, ⟨other, exponent⟩]

/-- The shortest decimal fraction with the given rank, and the nearest of those. Seventeen digits
always suffice. -/
def shortestOfRank (rank : Nat) : Decimal :=
  let units := unitsOfRank rank
  let leading := leadingExponent units
  let hit := (List.range 17).findSome? fun (more : Nat) =>
    (gridNeighbours units (leading - more)).find? fun candidate => candidate.rank == rank
  Decimal.stripZeros 17 (hit.getD ⟨units, -1074⟩)

end Binary64

end ScriptStudio
