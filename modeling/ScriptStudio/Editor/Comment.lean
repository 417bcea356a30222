import ScriptStudio.Buffer.Basic
import ScriptStudio.Text.Blank
import ScriptStudio.Text.Lines

/-!
# Toggling comments

The selection, or else the line of the cursor, is cut into lines. If each of them is blank or a
comment, the comments are taken away; otherwise every line that is not blank becomes a comment.

This is `toggle_comment`.
-/

namespace ScriptStudio

namespace Comment

/-- The line holds only white space. -/
def isBlankLine (line : List Char) : Bool := line.all Text.isBlank

/-- The first character of the line that is not white space is the sign of a comment. -/
def isComment (line : List Char) : Bool := (line.dropWhile Text.isBlank).head? == some '#'

/-- Takes away the first sign of a comment, and then one space at the very start of the line. -/
def uncomment (line : List Char) : List Char :=
  match line.erase '#' with
  | ' ' :: rest => rest
  | rest => rest

/-- Toggles the comments of lines. -/
def toggleLines (lines : List (List Char)) : List (List Char) :=
  if lines.all fun line => isComment line || isBlankLine line then
    lines.map fun line => if isComment line then uncomment line else line
  else
    lines.map fun line => if isBlankLine line then line else '#' :: ' ' :: line

/-- The positions between which comments are toggled. -/
def extent (buffer : Buffer) : Nat × Nat :=
  match buffer.selection with
  | some ends => ends
  | none =>
    let line := (buffer.place buffer.cursor).line
    (buffer.position line 0, buffer.lineEnd line)

/-- Toggles the comments of the selection or of the line of the cursor. -/
def toggle (buffer : Buffer) (rule : BreakRule := .stays) : Buffer :=
  let (first, last) := extent buffer
  let lines := toggleLines (Text.splitLines (buffer.slice first last))
  (buffer.delete first last rule).insert first (Text.joinLines lines)

end Comment

end ScriptStudio
