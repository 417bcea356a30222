import ScriptStudio.Number.Decimal
import ScriptStudio.Text.Blank
import ScriptStudio.Text.Digit

/-!
# Numbers read from text

Both readers take decimal digits of any script, let a single underscore stand between two digits,
and allow white space around the number. An integer has at most `integerDigitLimit` digits.

The readers are `int` and `float`, which `_to_numeric` and `parse_primary` use.
-/

namespace ScriptStudio

/-- Integers of more digits are neither read nor written. -/
def integerDigitLimit : Nat := 4300

namespace Reading

/-- A digit of any script as the ASCII digit, and every other character as it is. -/
def plainDigit (c : Char) : Char :=
  match Text.digitValue? c with
  | some value => Char.ofNat (48 + value)
  | none => c

/-- The text without white space around it and with ASCII digits. -/
def normalize (text : String) : List Char :=
  (Text.trimWhile Text.isNumberPadding text.toList).map plainDigit

/-- Drops underscores. Each has to stand between two digits, `previous` being the character before
the text. -/
def dropUnderscores (previous : Char) : List Char → Option (List Char)
  | [] => if previous == '_' then none else some []
  | c :: rest =>
    if c == '_' then
      if previous.isDigit then dropUnderscores c rest else none
    else if previous == '_' && !c.isDigit then none
    else (dropUnderscores c rest).map (c :: ·)

/-- A leading sign and what follows it. -/
def splitSign : List Char → Bool × List Char
  | '-' :: rest => (true, rest)
  | '+' :: rest => (false, rest)
  | text => (false, text)

/-- The number that a row of ASCII digits stands for. -/
def digitsToNat (digits : List Char) : Nat :=
  digits.foldl (fun sum digit => 10 * sum + (digit.toNat - 48)) 0

/-- The exponent part of a number: nothing, or `e`, an optional sign and digits. -/
def exponent? : List Char → Option Int
  | [] => some 0
  | c :: rest =>
    if c == 'e' || c == 'E' then
      let (negative, digits) := splitSign rest
      if digits.isEmpty || !digits.all Char.isDigit then none
      else if negative then some (-(digitsToNat digits : Int))
      else some (digitsToNat digits)
    else none

/-- An unsigned decimal number with an optional point and exponent. It has a digit on some side of
the point. -/
def unsigned? (negative : Bool) (text : List Char) : Option Binary64 :=
  let whole := text.takeWhile Char.isDigit
  let afterWhole := text.dropWhile Char.isDigit
  let afterPoint :=
    match afterWhole with
    | '.' :: rest => rest
    | rest => rest
  let hasPoint := afterPoint.length < afterWhole.length
  let fraction := if hasPoint then afterPoint.takeWhile Char.isDigit else []
  let tail := if hasPoint then afterPoint.dropWhile Char.isDigit else afterWhole
  if whole.isEmpty && fraction.isEmpty then none
  else
    (exponent? tail).map fun exponent =>
      let digits := whole ++ fraction
      let significant := digits.dropWhile (· == '0')
      Binary64.ofDecimal negative significant.length
        ⟨digitsToNat significant, exponent - fraction.length⟩

/-- The words that stand for numbers which are not finite. -/
def special? (negative : Bool) (text : List Char) : Option Binary64 :=
  match String.ofList (text.map Char.toLower) with
  | "inf" => some (.infinite negative)
  | "infinity" => some (.infinite negative)
  | "nan" => some .nan
  | _ => none

end Reading

open Reading

/-- Reads a 64-bit number. -/
def Binary64.ofText? (text : String) : Option Binary64 := do
  let plain ← dropUnderscores ' ' (normalize text)
  let (negative, rest) := splitSign plain
  match special? negative rest with
  | some x => some x
  | none => unsigned? negative rest

/-- Reads an integer. -/
def integerOfText? (text : String) : Option Int := do
  let plain ← dropUnderscores ' ' (normalize text)
  let (negative, digits) := splitSign plain
  if digits.isEmpty || !digits.all Char.isDigit || integerDigitLimit < digits.length then none
  else if negative then some (-(digitsToNat digits : Int))
  else some (digitsToNat digits)

end ScriptStudio
