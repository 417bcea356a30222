import ScriptStudio.Number.Format
import ScriptStudio.Number.Reading

/-!
# Numbers of the scripting language

A number is an unbounded integer or a 64-bit number. Integers stay integers under addition,
subtraction, multiplication and remainder; a quotient is always a 64-bit number; an operation on
both kinds takes place on 64-bit numbers. Comparison is exact across the kinds.

These are the numbers that `apply_binary_operation` and `apply_unary_operation` work on.
-/

namespace ScriptStudio

/-- Why a number could not be computed or written. -/
inductive NumberError where
  /-- An integer beyond the 64-bit numbers met one of them. -/
  | integerTooLarge
  /-- A quotient of integers lies beyond the 64-bit numbers. -/
  | quotientTooLarge
  /-- An integer has too many digits to be written. -/
  | tooManyDigits
deriving DecidableEq

/-- What the failure says. -/
def NumberError.message : NumberError → String
  | .integerTooLarge => "int too large to convert to float"
  | .quotientTooLarge => "integer division result too large for a float"
  | .tooManyDigits =>
    "Exceeds the limit (4300 digits) for integer string conversion; " ++
      "use sys.set_int_max_str_digits() to increase the limit"

/-- The decimal text of an integer that has at most `integerDigitLimit` digits. -/
def integerText (n : Int) : Except NumberError String :=
  if Nat.pow 10 integerDigitLimit ≤ n.natAbs then .error .tooManyDigits
  else .ok (if n < 0 then "-" ++ n.natAbs.repr else n.natAbs.repr)

/-- An integer or a 64-bit number. -/
inductive Number where
  | int (n : Int)
  | float (x : Binary64)
deriving DecidableEq

namespace Number

/-- The number as a 64-bit number. -/
def toBinary64 : Number → Except NumberError Binary64
  | .float x => .ok x
  | .int n =>
    match Binary64.ofInt? n with
    | some x => .ok x
    | none => .error .integerTooLarge

/-- The number is zero. -/
def isZero : Number → Bool
  | .int n => n == 0
  | .float x => x.isZero

/-- Applies the first operation to two integers and the second to all other pairs. -/
def combine (onInts : Int → Int → Int) (onFloats : Binary64 → Binary64 → Binary64) :
    Number → Number → Except NumberError Number
  | .int m, .int n => .ok (.int (onInts m n))
  | x, y => do return .float (onFloats (← x.toBinary64) (← y.toBinary64))

/-- The sum. -/
def add : Number → Number → Except NumberError Number := combine (· + ·) Binary64.add

/-- The difference. -/
def sub : Number → Number → Except NumberError Number := combine (· - ·) Binary64.sub

/-- The product. -/
def mul : Number → Number → Except NumberError Number := combine (· * ·) Binary64.mul

/-- The remainder with the sign of the divisor, which is not zero. -/
def mod : Number → Number → Except NumberError Number := combine Int.fmod Binary64.mod

/-- The quotient by a divisor that is not zero. -/
def div : Number → Number → Except NumberError Number
  | .int m, .int n =>
    match Binary64.ofQuotient? m n with
    | some x => .ok (.float x)
    | none => .error .quotientTooLarge
  | x, y => do return .float ((← x.toBinary64).div (← y.toBinary64))

/-- The number with its sign changed. -/
def neg : Number → Number
  | .int n => .int (-n)
  | .float x => .float x.neg

/-- Where a number lies on the line from minus infinity to infinity: on which side of the finite
numbers, and its units. Not-a-number lies nowhere. -/
def position? : Number → Option (Int × Int)
  | .int n => some (0, n * Binary64.unitsPerOne)
  | .float (.finite negative rank) => some (0, Binary64.signedUnits negative rank)
  | .float (.infinite negative) => some (if negative then -1 else 1, 0)
  | .float .nan => none

/-- How two numbers compare. Not-a-number compares with nothing. -/
def compare? : Number → Number → Option Ordering
  | .int m, .int n => some (compare m n)
  | x, y => do
    let (xSide, xUnits) ← x.position?
    let (ySide, yUnits) ← y.position?
    return (compare xSide ySide).then (compare xUnits yUnits)

/-- The number is greater than zero. -/
def isPositive (x : Number) : Bool := x.compare? (.int 0) == some .gt

/-- The number is less than zero. -/
def isNegative (x : Number) : Bool := x.compare? (.int 0) == some .lt

end Number

end ScriptStudio
