import ScriptStudio.Buffer.Basic
import ScriptStudio.Text.Blank

/-!
# Written positions

A written position names a place (a line and a column, the end of a line, the end of the text, the
cursor, an end of the selection) and goes from there some characters forward or back.

These are the positions that `index` and all operations on a text area take.
-/

namespace ScriptStudio

/-- Why a written position has no meaning. -/
inductive IndexError where
  | malformed
  | nothingSelected
deriving DecidableEq

/-- A step from a position. -/
inductive IndexStep where
  | forward (count : Nat)
  | back (count : Nat)

namespace Buffer

/-- A number at the start of a text, and what follows it. -/
def leadingNumber? (chars : List Char) : Option (Nat × List Char) :=
  match chars.takeWhile Char.isDigit with
  | [] => none
  | digits =>
    some (digits.foldl (fun n c => 10 * n + (c.toNat - 48)) 0, chars.dropWhile Char.isDigit)

/-- The unit after the number of a step: all the letters of it, which are `c` or begin `chars`. -/
def dropUnit? (chars : List Char) : Option (List Char) :=
  let chars := chars.dropWhile (· == ' ')
  let word := chars.takeWhile Char.isAlpha
  if !word.isEmpty && word.isPrefixOf "chars".toList then some (chars.drop word.length) else none

/-- One step at the start of a text, and what follows it. -/
def leadingStep? (chars : List Char) : Option (IndexStep × List Char) := do
  let (sign, rest) ←
    match chars.dropWhile (· == ' ') with
    | '+' :: rest => some (IndexStep.forward, rest)
    | '-' :: rest => some (IndexStep.back, rest)
    | _ => none
  let (count, rest) ← leadingNumber? (rest.dropWhile (· == ' '))
  return (sign count, ← dropUnit? rest)

/-- Takes a step. -/
def step (buffer : Buffer) (position : Nat) : IndexStep → Nat
  | .forward count => buffer.forward position count
  | .back count => position - count

/-- Takes the steps that a text writes down, at most `fuel` of them. -/
def steps? (buffer : Buffer) : (fuel : Nat) → Nat → List Char → Option Nat
  | _, position, [] => some position
  | 0, _, _ :: _ => none
  | fuel + 1, position, c :: rest => do
    let (step, rest) ← leadingStep? (c :: rest)
    buffer.steps? fuel (buffer.step position step) rest

/-- The place at the start of a written position, and what follows it. -/
def base (buffer : Buffer) (chars : List Char) : Except IndexError (Nat × List Char) :=
  let named (word : String) := word.toList.isPrefixOf chars
  let after (word : String) := chars.drop word.length
  let selected (side : Nat × Nat → Nat) (rest : List Char) :=
    match buffer.selection with
    | some ends => .ok (side ends, rest)
    | none => .error .nothingSelected
  if named "end" then .ok (buffer.size, after "end")
  else if named "insert" then .ok (buffer.cursor, after "insert")
  else if named "sel.first" then selected (·.1) (after "sel.first")
  else if named "sel.last" then selected (·.2) (after "sel.last")
  else
    let (negative, digits) :=
      match chars with
      | '-' :: rest => (true, rest)
      | _ => (false, chars)
    match leadingNumber? digits with
    | some (line, '.' :: rest) =>
      let line := if negative then 0 else line
      if "end".toList.isPrefixOf rest then .ok (buffer.lineEnd line, rest.drop 3)
      else
        match leadingNumber? rest with
        | some (column, rest) => .ok (buffer.position line column, rest)
        | none => .error .malformed
    | _ => .error .malformed

/-- The position that is written. -/
def resolve (buffer : Buffer) (written : String) : Except IndexError Nat := do
  let chars := written.toList
  let (position, rest) ← buffer.base chars
  match buffer.steps? rest.length position rest with
  | some position => return position
  | none => throw .malformed

end Buffer

end ScriptStudio
