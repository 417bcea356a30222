/-!
# Lines

Three ways to see lines. The wide one ends a line at every line boundary of Unicode. The narrow one
ends a line at a line feed only. Reading a text file turns carriage returns, alone or before a line
feed, into line feeds.

The ways are those of `splitlines` and `split`, and of a file that is opened as text.
-/

namespace ScriptStudio.Text

/-- The character ends a line in the wide sense. -/
def isLineBoundary (c : Char) : Bool :=
  let code := c.toNat
  (10 ≤ code && code ≤ 13) || (28 ≤ code && code ≤ 30) || code == 0x85 || code == 0x2028 ||
    code == 0x2029

/-- Splits at the line boundaries of Unicode. `current` is the line so far, reversed; a boundary at
the very end opens no further line. -/
def wideLinesFrom (current : List Char) : List Char → List (List Char)
  | [] => if current.isEmpty then [] else [current.reverse]
  | '\r' :: '\n' :: rest => current.reverse :: wideLinesFrom [] rest
  | c :: rest =>
    if isLineBoundary c then current.reverse :: wideLinesFrom [] rest
    else wideLinesFrom (c :: current) rest

/-- The lines of a text, split at every line boundary of Unicode. -/
def wideLines (text : List Char) : List (List Char) := wideLinesFrom [] text

/-- Splits at every line feed, so that there is one line more than there are line feeds. -/
def splitLinesFrom (current : List Char) : List Char → List (List Char)
  | [] => [current.reverse]
  | c :: rest =>
    if c = '\n' then current.reverse :: splitLinesFrom [] rest
    else splitLinesFrom (c :: current) rest

/-- The pieces of a text between its line feeds. -/
def splitLines (text : List Char) : List (List Char) := splitLinesFrom [] text

/-- Pieces joined by line feeds. -/
def joinLines (lines : List (List Char)) : List Char := List.intercalate ['\n'] lines

/-- Carriage returns, alone or before a line feed, become line feeds. -/
def unifyNewlines : List Char → List Char
  | [] => []
  | '\r' :: '\n' :: rest => '\n' :: unifyNewlines rest
  | c :: rest => (if c = '\r' then '\n' else c) :: unifyNewlines rest

/-- A text given by its lines. -/
def ofLines (lines : List String) : String := "\n".intercalate lines

/-- The lines that a reader of the text meets: each ends at a line feed, and a last piece without
one counts when it is not empty. -/
def inputLines (text : String) : List String :=
  let pieces := (splitLines text.toList).map String.ofList
  match pieces.getLast? with
  | some "" => pieces.dropLast
  | _ => pieces

end ScriptStudio.Text
