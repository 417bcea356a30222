import ScriptStudio.Buffer.Basic
import ScriptStudio.Text.Blank
import ScriptStudio.Text.Word

/-!
# Completion of words

The word to complete is the last word of the line before the cursor. The words offered are those
that begin with it: first the words of the language, then the variables that the text assigns.

These are the words of `CodeEditor.show_autocomplete`, and the text that `_insert_completion` puts
in.
-/

namespace ScriptStudio

/-- A word to complete and the words offered for it. -/
structure Completion where
  typed : String
  offers : List String

namespace Completion

/-- The words of the language. -/
def keywords : List String :=
  ["say", "kas", "if", "else", "while", "for", "function", "return", "true", "false", "and", "or",
    "not", "input", "to", "step"]

/-- The name that is assigned when the text begins with an assignment, and what follows its sign of
equality. -/
def assignment? (chars : List Char) : Option (String × List Char) :=
  match chars with
  | 'k' :: 'a' :: 's' :: rest =>
    let spaced := rest.dropWhile Text.isBlank
    match spaced with
    | c :: more =>
      if spaced.length < rest.length && Text.startsName c then
        match (more.dropWhile Text.continuesName).dropWhile Text.isBlank with
        | '=' :: after => some (String.ofList (c :: more.takeWhile Text.continuesName), after)
        | _ => none
      else none
    | [] => none
  | _ => none

/-- The names assigned in a text, in order and with repetitions. `afterWord` says that the character
before is part of a word, and the fuel bounds the characters looked at. -/
def assignedFrom : (fuel : Nat) → (afterWord : Bool) → List Char → List String
  | 0, _, _ => []
  | _ + 1, _, [] => []
  | fuel + 1, afterWord, c :: rest =>
    match if afterWord then none else assignment? (c :: rest) with
    | some (name, after) => name :: assignedFrom fuel false after
    | none => assignedFrom fuel (Text.isWord c) rest

/-- The names assigned in a text, each once. -/
def assigned (content : List Char) : List String :=
  (assignedFrom (content.length + 1) false content).eraseDups

/-- The last word of a text. -/
def lastWord? (chars : List Char) : Option String :=
  match (chars.reverse.dropWhile fun c => !Text.isWord c).takeWhile Text.isWord with
  | [] => none
  | word => some (String.ofList word.reverse)

/-- The text of the line before the cursor. -/
def lineBeforeCursor (buffer : Buffer) : List Char :=
  buffer.slice (buffer.position (buffer.place buffer.cursor).line 0) buffer.cursor

/-- The word before the cursor with what is offered for it. A word that is its own only offer needs
no completion. -/
def ofBuffer? (buffer : Buffer) : Option Completion := do
  let typed ← lastWord? (lineBeforeCursor buffer)
  let fits (word : String) : Bool := typed.toList.isPrefixOf word.toList
  let offers := keywords.filter fits ++ (assigned buffer.content).filter fits
  if offers.isEmpty || offers == [typed] then none else some ⟨typed, offers⟩

/-- Puts a word in the place of as many characters before the cursor as the typed word has. -/
def accept (buffer : Buffer) (typed word : String) : Buffer :=
  let cleared := buffer.delete (buffer.cursor - typed.length) buffer.cursor
  cleared.insert cleared.cursor word.toList

end Completion

end ScriptStudio
