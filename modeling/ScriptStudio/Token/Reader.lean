import ScriptStudio.Token.Scan

/-!
# Reading a source step by step

A reader holds a source and a position in it. It looks at single characters, skips blanks and
comments, and scans from where it stands.

The operations are those of `Lexer`: `current_char`, `peek_char`, `advance`, `skip_whitespace`,
`skip_comment` and `tokenize`.
-/

namespace ScriptStudio

/-- The element at an index of a list, where a negative index counts from the end. -/
def indexFromEnd? {α : Type} (list : List α) (index : Int) : Option α :=
  if 0 ≤ index then list[index.toNat]?
  else if 0 ≤ list.length + index then list[(list.length + index).toNat]?
  else none

/-- A source and a position in it. -/
structure Reader where
  source : List Char
  position : Nat
  place : Place

namespace Reader

/-- A reader at the start of a source. -/
def ofSource (source : String) : Reader := ⟨source.toList, 0, Place.start⟩

/-- What lies ahead. -/
def ahead (reader : Reader) : List Char := reader.source.drop reader.position

/-- The character at the position. -/
def current? (reader : Reader) : Option Char := reader.source[reader.position]?

/-- What a look at a distance shows. -/
inductive Look where
  | char (c : Char)
  | past
  | outside

/-- Looks at a distance without moving. Past the end there is nothing to see; before the start the
look wraps around to the end, once. -/
def peek (reader : Reader) (offset : Int) : Look :=
  let index : Int := reader.position + offset
  if reader.source.length ≤ index then .past
  else
    match indexFromEnd? reader.source index with
    | some c => .char c
    | none => .outside

/-- Moves over the given characters, which lie ahead. -/
def moveOver (reader : Reader) (text : List Char) : Reader :=
  { reader with
    position := reader.position + text.length
    place := reader.place.advance text }

/-- Moves over one character. -/
def advance (reader : Reader) : Reader := reader.moveOver (reader.ahead.take 1)

/-- Moves over blanks. -/
def skipBlanks (reader : Reader) : Reader := reader.moveOver (reader.ahead.takeWhile isGap)

/-- Moves over a comment that starts at the position. -/
def skipComment (reader : Reader) : Reader :=
  if reader.current? = some '#' then reader.moveOver (reader.ahead.takeWhile (· ≠ '\n'))
  else reader

/-- Scans from the position on and stands where scanning ended. -/
def scanAhead (reader : Reader) : Except LexError (List Token) × Reader :=
  let found := scan reader.place reader.ahead
  (found.result,
    { reader with position := reader.source.length - found.rest.length, place := found.place })

end Reader

end ScriptStudio
