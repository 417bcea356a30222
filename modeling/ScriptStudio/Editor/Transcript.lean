import ScriptStudio.Text.Digit
import ScriptStudio.Text.Lowercase
import ScriptStudio.Text.Word

/-!
# The output pane

What is written to the output pane carries a tag that decides its colour. Plain output gets a finer
tag from what it says: it mentions a truth value, or it holds a digit and no letters.

This is `Console.write`, with `clear`, `write_info`, `write_error`, `write_warning` and
`write_success`.
-/

namespace ScriptStudio

/-- The text of the output pane, and every piece ever written to it with its tag. -/
structure Transcript where
  text : String := ""
  written : Array (String × String) := #[]

namespace Transcript

/-- The tag of plain output. -/
def plainTag : String := "output"

/-- One text stands somewhere in another. -/
def mentions (needle : List Char) : List Char → Bool
  | [] => needle.isEmpty
  | c :: rest => needle.isPrefixOf (c :: rest) || mentions needle rest

/-- The text mentions a truth value. -/
def mentionsBoolean (text : String) : Bool :=
  let lowered := Text.lowerChars text.toList
  mentions "true".toList lowered || mentions "false".toList lowered

/-- The text holds a digit and no letters. -/
def isNumeric (text : String) : Bool :=
  text.toList.any Text.isDecimal && !text.toList.any Text.isLetter

/-- The tag under which a text is written. -/
def refine (tag text : String) : String :=
  if tag != plainTag then tag
  else if mentionsBoolean text then "boolean"
  else if isNumeric text then "number"
  else plainTag

/-- Writes a text. -/
def write (transcript : Transcript) (text tag : String) : Transcript :=
  { text := transcript.text ++ text
    written := transcript.written.push (refine tag text, text) }

/-- Empties the pane. -/
def clear (transcript : Transcript) : Transcript := { transcript with text := "" }

/-- Writes a line of information. -/
def info (transcript : Transcript) (text : String) : Transcript :=
  transcript.write ("ℹ️ " ++ text ++ "\n") "info"

/-- Writes a line about an error. -/
def error (transcript : Transcript) (text : String) : Transcript :=
  transcript.write ("❌ " ++ text ++ "\n") "error"

/-- Writes a warning. -/
def warning (transcript : Transcript) (text : String) : Transcript :=
  transcript.write ("⚠️ " ++ text ++ "\n") "warning"

/-- Writes a line about a success. -/
def success (transcript : Transcript) (text : String) : Transcript :=
  transcript.write ("✅ " ++ text ++ "\n") "success"

end Transcript

end ScriptStudio
