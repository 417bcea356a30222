import ScriptStudio.Number.Decimal

/-!
# Numbers as text

A finite number shows its shortest digits: positionally, with at least one digit on either side of
the point, while the exponent of its leading digit lies from -4 to 15, and with an exponent of at
least two digits otherwise.

This is how `str` writes a number.
-/

namespace ScriptStudio

/-- How decimal digits are laid out. -/
structure NumberLayout where
  /-- The least exponent of a leading digit that is written positionally. -/
  leastPositional : Int
  /-- The greatest exponent of a leading digit that is written positionally. -/
  greatestPositional : Int
  /-- The least number of digits of an exponent. -/
  exponentWidth : Nat

/-- The layout of the scripting language: positional from 10 ^ -4 up to below 10 ^ 16. -/
def NumberLayout.script : NumberLayout := ⟨-4, 15, 2⟩

/-- A natural number in decimal with zeros in front up to a width. -/
def padNumber (width : Nat) (n : Nat) : String :=
  let digits := n.repr
  String.ofList (List.replicate (width - digits.length) '0') ++ digits

/-- The digits of a fraction with a point. -/
def Decimal.positional (decimal : Decimal) : String :=
  let digits := decimal.digits.repr.toList
  let point := digits.length + decimal.exponent
  if point ≤ 0 then
    "0." ++ String.ofList (List.replicate (-point).toNat '0' ++ digits)
  else if 0 ≤ decimal.exponent then
    String.ofList (digits ++ List.replicate decimal.exponent.toNat '0') ++ ".0"
  else
    String.ofList (digits.take point.toNat) ++ "." ++ String.ofList (digits.drop point.toNat)

/-- The digits of a fraction with an exponent. -/
def Decimal.scientific (layout : NumberLayout) (decimal : Decimal) : String :=
  let digits := decimal.digits.repr.toList
  let exponent := digits.length + decimal.exponent - 1
  let mantissa :=
    match digits with
    | [] => ""
    | [digit] => String.ofList [digit]
    | digit :: rest => String.ofList (digit :: '.' :: rest)
  let sign := if exponent < 0 then "-" else "+"
  mantissa ++ "e" ++ sign ++ padNumber layout.exponentWidth exponent.natAbs

/-- The text of a fraction in a layout. -/
def Decimal.text (layout : NumberLayout) (decimal : Decimal) : String :=
  let leading := decimal.digits.repr.length + decimal.exponent - 1
  if layout.leastPositional ≤ leading && leading ≤ layout.greatestPositional then
    decimal.positional
  else decimal.scientific layout

/-- The text of a 64-bit number. -/
def Binary64.text : Binary64 → String
  | .nan => "nan"
  | .infinite negative => if negative then "-inf" else "inf"
  | .finite negative rank =>
    let sign := if negative then "-" else ""
    sign ++
      if rank.val = 0 then "0.0" else (Binary64.shortestOfRank rank).text NumberLayout.script

end ScriptStudio
