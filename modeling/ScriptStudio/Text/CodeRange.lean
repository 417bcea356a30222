/-!
# Ranges of code points

A character class beyond ASCII is a table of closed ranges of code points.
-/

namespace ScriptStudio.Text

/-- A closed range of code points. -/
abbrev CodeRange := Nat × Nat

/-- Ranges given by lengths: from a code point on, how many code points lie outside, then how many
inside, and so on in turn. -/
def rangesFrom (code : Nat) : (lengths : List Nat) → List CodeRange
  | outside :: inside :: rest =>
    (code + outside, code + outside + inside - 1) :: rangesFrom (code + outside + inside) rest
  | _ => []

/-- The character lies in one of the ranges. -/
def inRanges (ranges : List CodeRange) (c : Char) : Bool :=
  ranges.any fun range => range.1 ≤ c.toNat && c.toNat ≤ range.2

end ScriptStudio.Text
