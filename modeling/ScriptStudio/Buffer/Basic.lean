/-!
# Text buffers

A buffer holds the text of an editor, the cursor, the selection and tags. A position is the number
of characters before it. The text is seen with a line feed after it, so that the last position is
one more than the length of the text.

Tags keep the line and column that they were given; later edits do not move them. A tag is on the
characters between its two ends, and on none if there is nothing between them.

Text areas differ in how they count columns, in how much they take in of a text with a null
character in it, and in what they delete with whole lines at the end of the text. These are
parameters: `Columns`, `Intake` and `BreakRule`.

The operations are those of a text area that the editor uses: `insert`, `delete`, `get`, `mark_set`,
`tag_add` and `tag_remove`.
-/

namespace ScriptStudio

/-- A line, counted from one, and a column, counted from zero. -/
structure LineColumn where
  line : Nat
  column : Nat
deriving DecidableEq

/-- The line, a point and the column. -/
def LineColumn.text (place : LineColumn) : String := s!"{place.line}.{place.column}"

/-- A name for the text between two places. -/
structure Tag where
  name : String
  first : LineColumn
  last : LineColumn
deriving DecidableEq

/-- The text of an editor with the marks in it. -/
structure Buffer where
  text : List Char := []
  cursor : Nat := 0
  selection : Option (Nat × Nat) := none
  tags : List Tag := []

/-- How a text area counts columns. -/
inductive Columns where
  /-- Every character takes one column. -/
  | points
  /-- Characters beyond U+FFFF take two columns. -/
  | units16

namespace Columns

/-- How many columns a character takes. -/
def width : Columns → Char → Nat
  | .points, _ => 1
  | .units16, c => if c.toNat < 0x10000 then 1 else 2

/-- The characters, each as often as it takes columns. -/
def spread (columns : Columns) (chars : List Char) : List Char :=
  chars.flatMap fun c => List.replicate (columns.width c) c

end Columns

/-- How much of a text a text area takes in. -/
inductive Intake where
  /-- The whole text. -/
  | whole
  /-- The text up to the first null character. -/
  | upToNull

/-- The characters that are taken in. -/
def Intake.taken : Intake → List Char → List Char
  | .whole, chars => chars
  | .upToNull, chars => chars.takeWhile (· != '\x00')

/-- What becomes of the line feed in front of whole lines that are deleted up to the very end. -/
inductive BreakRule where
  | stays
  | goes
deriving DecidableEq

namespace Buffer

/-- The text with the line feed that closes it. -/
def content (buffer : Buffer) : List Char := buffer.text ++ ['\n']

/-- The last position. -/
def size (buffer : Buffer) : Nat := buffer.text.length + 1

/-- The position of a column in the line so many lines further down. A column past the end of its
line is the end of the line, and a line past the last is the end of the text. -/
def positionFrom (column : Nat) : (lines : Nat) → List Char → Nat
  | 0, chars => min column (chars.takeWhile (· != '\n')).length
  | lines + 1, chars =>
    let line := chars.takeWhile (· != '\n')
    match chars.drop line.length with
    | [] => line.length
    | _ :: rest => line.length + 1 + positionFrom column lines rest

/-- The position of a line and a column. Before the first line it is zero. -/
def position (buffer : Buffer) (line column : Nat) : Nat :=
  match line with
  | 0 => 0
  | line + 1 => positionFrom column line buffer.content

/-- The position at the end of a line. -/
def lineEnd (buffer : Buffer) (line : Nat) : Nat := buffer.position line buffer.size

/-- The line and the column after some characters. -/
def placeAfter (before : List Char) : LineColumn :=
  ⟨1 + before.count '\n', (before.reverse.takeWhile (· != '\n')).length⟩

/-- The line and the column of a position. -/
def place (buffer : Buffer) (position : Nat) : LineColumn :=
  placeAfter (buffer.content.take position)

/-- How many lines the text has. -/
def lineCount (buffer : Buffer) : Nat := (buffer.place buffer.size).line - 1

/-- The buffer with a position for every column: a character that takes two stands twice. -/
def spread (buffer : Buffer) (columns : Columns) : Buffer :=
  { buffer with text := columns.spread buffer.text }

/-- The characters from one position up to another. -/
def slice (buffer : Buffer) (first last : Nat) : List Char :=
  (buffer.content.take last).drop first

/-- The character after a position, if there is one. -/
def charAt? (buffer : Buffer) (position : Nat) : Option Char := buffer.content[position]?

/-- So many characters further on, and at most the last position. -/
def forward (buffer : Buffer) (position count : Nat) : Nat := min (position + count) buffer.size

/-- Puts characters in at a position. The cursor and the start of the selection move when they stand
at the position or after it, the end of the selection when it stands after it. -/
def insert (buffer : Buffer) (position : Nat) (chars : List Char) : Buffer :=
  let point := min position buffer.text.length
  let moved (p : Nat) := if point ≤ p then p + chars.length else p
  let movedEnd (p : Nat) := if point < p then p + chars.length else p
  { buffer with
    text := buffer.text.take point ++ chars ++ buffer.text.drop point
    cursor := moved buffer.cursor
    selection := buffer.selection.map fun (first, last) => (moved first, movedEnd last) }

/-- Where a position comes to stand when the characters from `first` up to `last` go. -/
def closeGap (first last position : Nat) : Nat :=
  if position ≤ first then position
  else if position ≤ last then first
  else position - (last - first)

/-- Takes characters out. The line feed that closes the text stays, and a selection with nothing
left in it is dropped. -/
def cut (buffer : Buffer) (first last : Nat) : Buffer :=
  let stop := min last buffer.text.length
  if stop ≤ first then buffer
  else
    { buffer with
      text := buffer.text.take first ++ buffer.text.drop stop
      cursor := closeGap first stop buffer.cursor
      selection := (buffer.selection.map fun (a, b) =>
        (closeGap first stop a, closeGap first stop b)).filter fun (a, b) => a < b }

/-- The characters are whole lines up to the very end, and the line feed in front of them goes with
them. -/
def takesBreak (buffer : Buffer) (first last : Nat) (rule : BreakRule) : Bool :=
  rule == .goes && first < buffer.size && buffer.size ≤ last &&
    (buffer.text.take first).getLast? == some '\n'

/-- Where the gap begins if characters are deleted. -/
def gapStart (buffer : Buffer) (first last : Nat) (rule : BreakRule) : Nat :=
  if buffer.takesBreak first last rule then first - 1 else first

/-- Deletes characters. -/
def delete (buffer : Buffer) (first last : Nat) (rule : BreakRule := .stays) : Buffer :=
  buffer.cut (buffer.gapStart first last rule) last

theorem delete_stays (buffer : Buffer) (first last : Nat) :
    buffer.delete first last = buffer.cut first last := rfl

/-- Replaces the whole text. -/
def setText (buffer : Buffer) (text : List Char) (intake : Intake := .whole) : Buffer :=
  (buffer.delete 0 buffer.size).insert 0 (intake.taken text)

/-- Moves the cursor. -/
def moveCursor (buffer : Buffer) (position : Nat) : Buffer := { buffer with cursor := position }

/-- Selects the text between two positions. -/
def select (buffer : Buffer) (first last : Nat) : Buffer :=
  { buffer with selection := some (first, last) }

/-- Drops the selection. -/
def deselect (buffer : Buffer) : Buffer := { buffer with selection := none }

/-- Puts a tag on the text between two positions. It is kept also if there is nothing between
them. -/
def addTag (buffer : Buffer) (name : String) (first last : Nat) : Buffer :=
  { buffer with tags := buffer.tags ++ [⟨name, buffer.place first, buffer.place last⟩] }

/-- Takes away every tag of a name. -/
def removeTag (buffer : Buffer) (name : String) : Buffer :=
  { buffer with tags := buffer.tags.filter (·.name != name) }

/-- The positions between which a tag stands. -/
def range (buffer : Buffer) (tag : Tag) : Nat × Nat :=
  (buffer.position tag.first.line tag.first.column, buffer.position tag.last.line tag.last.column)

/-- The tag is on the character after the position. -/
def Covers (buffer : Buffer) (tag : Tag) (position : Nat) : Prop :=
  (buffer.range tag).1 ≤ position ∧ position < (buffer.range tag).2

/-- The character after the position has a tag of the name on it. -/
def Bears (buffer : Buffer) (name : String) (position : Nat) : Prop :=
  ∃ tag ∈ buffer.tags, tag.name = name ∧ buffer.Covers tag position

end Buffer

end ScriptStudio
