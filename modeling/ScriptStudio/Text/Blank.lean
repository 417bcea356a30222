import ScriptStudio.Text.CodeRange

/-!
# White space

Blanks are the white space of Unicode together with the four ASCII separators from U+001C. Trimming
drops blanks at both ends.

Trimming is `strip`.
-/

namespace ScriptStudio.Text

/-- White space beyond ASCII. -/
def blankRanges : List CodeRange := [
    (0x85, 0x85), (0xa0, 0xa0), (0x1680, 0x1680), (0x2000, 0x200a), (0x2028, 0x2029),
    (0x202f, 0x202f), (0x205f, 0x205f), (0x3000, 0x3000)]

/-- The character is white space. -/
def isBlank (c : Char) : Bool :=
  if c.toNat < 128 then (9 ≤ c.toNat && c.toNat ≤ 13) || (28 ≤ c.toNat && c.toNat ≤ 32)
  else inRanges blankRanges c

/-- White space that may stand around a number: of the ASCII separators only the six usual ones. -/
def isNumberPadding (c : Char) : Bool :=
  if c.toNat < 128 then (9 ≤ c.toNat && c.toNat ≤ 13) || c == ' ' else inRanges blankRanges c

/-- Drops from both ends the characters that satisfy the test. -/
def trimWhile (test : Char → Bool) (text : List Char) : List Char :=
  ((text.dropWhile test).reverse.dropWhile test).reverse

/-- Drops the blanks at both ends. -/
def trim (text : String) : String :=
  String.ofList (trimWhile isBlank text.toList)

end ScriptStudio.Text
