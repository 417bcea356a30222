/-!
# Binary floating-point numbers of 64 bits

The finite numbers of one sign are counted from zero upwards, and a finite number is its sign and
its place in that count, its rank. Ranks grow with magnitude, so the number after the largest one
has the rank of infinity, and a carry out of the mantissa needs no case of its own.

All finite numbers are multiples of one smallest unit, 2 to the power -1074. `unitsOfRank` counts
the units of a rank, and `rankOfRatio` finds the rank next to a fraction of units. Every operation
is an exact one on units followed by that rounding.
-/

namespace ScriptStudio

namespace Binary64

/-- The rank that follows all finite ones. -/
def infiniteRank : Nat := 0x7ff0000000000000

/-- The number of units in one. -/
def unitsPerOne : Nat := Nat.pow 2 1074

/-- The magnitude of a rank, in units. From 2 ^ 53 on, every further 2 ^ 52 ranks lie twice as far
apart as the ones before. -/
def unitsOfRank (rank : Nat) : Nat :=
  let doublings := rank / Nat.pow 2 52 - 1
  (rank - doublings * Nat.pow 2 52) * Nat.pow 2 doublings

/-- The quotient rounded to the nearest integer, and a half to the even neighbour. -/
def roundQuotient (numerator denominator : Nat) : Nat :=
  let quotient := numerator / denominator
  let excess := 2 * (numerator % denominator)
  if excess > denominator || (excess == denominator && quotient % 2 == 1) then quotient + 1
  else quotient

/-- The rank whose magnitude is nearest to a fraction of units, and of two equally near ones the
even. It may lie at or past `infiniteRank`. -/
def rankOfRatio (numerator denominator : Nat) : Nat :=
  let doublings := (numerator / denominator).log2 - 52
  doublings * Nat.pow 2 52 + roundQuotient numerator (denominator * Nat.pow 2 doublings)

end Binary64

/-- A binary floating-point number of 64 bits. -/
inductive Binary64 where
  | finite (negative : Bool) (rank : Fin Binary64.infiniteRank)
  | infinite (negative : Bool)
  | nan
deriving DecidableEq

namespace Binary64

/-- Zero of either sign. -/
def zero (negative : Bool) : Binary64 := .finite negative ⟨0, by decide⟩

/-- The number of a sign and a rank. -/
def ofRank (negative : Bool) (rank : Nat) : Binary64 :=
  if h : rank < infiniteRank then .finite negative ⟨rank, h⟩ else .infinite negative

/-- The number nearest to a fraction of units. -/
def ofRatio (negative : Bool) (numerator denominator : Nat) : Binary64 :=
  ofRank negative (rankOfRatio numerator denominator)

/-- A finite number in units, with its sign. -/
def signedUnits (negative : Bool) (rank : Nat) : Int :=
  if negative then -(unitsOfRank rank : Int) else unitsOfRank rank

/-- The number nearest to a whole number of units. An exact zero takes the given sign. -/
def ofUnits (zeroNegative : Bool) (units : Int) : Binary64 :=
  if units = 0 then zero zeroNegative else ofRatio (units < 0) units.natAbs 1

/-- The number is negative or the negative zero. -/
def isNegative : Binary64 → Bool
  | .finite negative _ => negative
  | .infinite negative => negative
  | .nan => false

/-- The number is zero of either sign. -/
def isZero : Binary64 → Bool
  | .finite _ rank => rank.val == 0
  | _ => false

/-- The number with its sign changed. -/
def neg : Binary64 → Binary64
  | .finite negative rank => .finite (!negative) rank
  | .infinite negative => .infinite (!negative)
  | .nan => .nan

/-- The sum. Opposite numbers cancel to the positive zero. -/
def add : Binary64 → Binary64 → Binary64
  | .finite xNegative x, .finite yNegative y =>
    ofUnits (xNegative && yNegative) (signedUnits xNegative x + signedUnits yNegative y)
  | .infinite xNegative, .infinite yNegative =>
    if xNegative = yNegative then .infinite xNegative else .nan
  | .infinite negative, .finite _ _ => .infinite negative
  | .finite _ _, .infinite negative => .infinite negative
  | _, _ => .nan

/-- The difference. -/
def sub (x y : Binary64) : Binary64 := add x (neg y)

/-- The product. -/
def mul : Binary64 → Binary64 → Binary64
  | .finite xNegative x, .finite yNegative y =>
    ofRatio (xNegative != yNegative) (unitsOfRank x * unitsOfRank y) unitsPerOne
  | .nan, _ => .nan
  | _, .nan => .nan
  | x, y =>
    if x.isZero || y.isZero then .nan else .infinite (x.isNegative != y.isNegative)

/-- The quotient. -/
def div : Binary64 → Binary64 → Binary64
  | .finite xNegative x, .finite yNegative y =>
    if y.val = 0 then
      if x.val = 0 then .nan else .infinite (xNegative != yNegative)
    else ofRatio (xNegative != yNegative) (unitsOfRank x * unitsPerOne) (unitsOfRank y)
  | .infinite xNegative, .finite yNegative _ => .infinite (xNegative != yNegative)
  | .finite xNegative _, .infinite yNegative => zero (xNegative != yNegative)
  | _, _ => .nan

/-- The remainder of division towards negative infinity: it has the sign of the divisor. -/
def mod : Binary64 → Binary64 → Binary64
  | .finite xNegative x, .finite yNegative y =>
    if y.val = 0 then .nan
    else ofUnits yNegative ((signedUnits xNegative x).fmod (signedUnits yNegative y))
  | .finite xNegative x, .infinite yNegative =>
    if x.val = 0 then zero yNegative
    else if xNegative = yNegative then .finite xNegative x
    else .infinite yNegative
  | _, _ => .nan

/-- The number nearest to an integer, unless that lies beyond all finite ones. -/
def ofInt? (n : Int) : Option Binary64 :=
  match ofUnits false (n * unitsPerOne) with
  | .infinite _ => none
  | x => some x

/-- The number nearest to a fraction of integers with a divisor other than zero, unless it lies
beyond all finite ones. -/
def ofQuotient? (numerator denominator : Int) : Option Binary64 :=
  let negative := decide (numerator < 0) != decide (denominator < 0)
  match ofRatio negative (numerator.natAbs * unitsPerOne) denominator.natAbs with
  | .infinite _ => none
  | x => some x

end Binary64

end ScriptStudio
