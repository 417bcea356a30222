import ScriptStudio.Buffer.Search
import ScriptStudio.Editor.Dialog

/-!
# Finding and replacing

Finding starts at the cursor, selects the occurrence and puts the cursor after it. At the end of the
text it may go on from the beginning, if the user agrees. Replacing puts the replacement in the
place of a selection that is an occurrence and then finds the next one. Replacing all goes through
the text once from the beginning.

These are `find_next`, `replace` and `replace_all` of `FindReplaceDialog`.
-/

namespace ScriptStudio

/-- What to look for and what to put in its place. -/
structure FindRequest where
  query : String := ""
  replacement : String := ""
  matchCase : Bool := false
  wrapAround : Bool := true

/-- The end of replacing all occurrences. -/
inductive ReplaceAll where
  | nothingSought
  | done (buffer : Buffer) (desk : Desk)
  /-- Replacing never ends. -/
  | endless

namespace FindRequest

/-- The first occurrence from a position on and before another one. -/
def occurrence? (request : FindRequest) (buffer : Buffer) (start stop : Nat) : Option Nat :=
  buffer.search? request.matchCase request.query.toList start stop

/-- Looks from the cursor on, and from the beginning if the user agrees. -/
def locate (request : FindRequest) (buffer : Buffer) (desk : Desk) : Option Nat × Desk :=
  match request.occurrence? buffer buffer.cursor buffer.size with
  | some position => (some position, desk)
  | none =>
    if request.wrapAround then
      let (again, desk) :=
        desk.askYesNo "Search" "Reached end of file. Continue from beginning?"
      (if again then request.occurrence? buffer 0 buffer.cursor else none, desk)
    else (none, desk)

/-- Finds the next occurrence. -/
def findNext (request : FindRequest) (buffer : Buffer) (desk : Desk) : Buffer × Desk :=
  if request.query == "" then (buffer, desk)
  else
    match request.locate buffer desk with
    | (some position, desk) =>
      let last := buffer.forward position request.query.length
      ((buffer.select position last).moveCursor last, desk)
    | (none, desk) => (buffer, desk.tell .info "Search" s!"Could not find '{request.query}'")

/-- The text is an occurrence of the query. -/
def isOccurrence (request : FindRequest) (chars : List Char) : Bool :=
  if request.matchCase then chars == request.query.toList
  else Text.lowerChars chars == Text.lowerChars request.query.toList

/-- Puts the replacement in the place of the selection if that is an occurrence. -/
def replaceSelection (request : FindRequest) (buffer : Buffer) : Buffer :=
  match buffer.selection with
  | some (first, last) =>
    if request.isOccurrence (buffer.slice first last) then
      (buffer.delete first last).insert first request.replacement.toList
    else buffer
  | none => buffer

/-- Replaces the selection and finds the next occurrence. -/
def replace (request : FindRequest) (buffer : Buffer) (desk : Desk) : Buffer × Desk :=
  if request.query == "" then (buffer, desk)
  else request.findNext (request.replaceSelection buffer) desk

/-- Replaces occurrences from a position on and counts them; `none` if the fuel does not suffice. -/
def replaceFrom (request : FindRequest) :
    (fuel : Nat) → (start count : Nat) → Buffer → Option (Buffer × Nat)
  | 0, _, _, _ => none
  | fuel + 1, start, count, buffer =>
    match request.occurrence? buffer start buffer.size with
    | none => some (buffer, count)
    | some position =>
      let cleared := buffer.delete position (buffer.forward position request.query.length)
      let replaced := cleared.insert position request.replacement.toList
      request.replaceFrom fuel (replaced.forward position request.replacement.length) (count + 1)
        replaced

/-- Replaces all occurrences and reports how many there were. Replacing never ends only for the line
feed that closes the text: each other occurrence takes one character at least of what is left. -/
def replaceAll (request : FindRequest) (buffer : Buffer) (desk : Desk) : ReplaceAll :=
  if request.query == "" then .nothingSought
  else
    match request.replaceFrom (buffer.size + 1) 0 0 buffer with
    | some (buffer, count) =>
      .done buffer (desk.tell .info "Replace All" s!"Replaced {count} occurrences")
    | none => .endless

end FindRequest

end ScriptStudio
