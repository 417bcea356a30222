import ScriptStudio.Buffer.Basic
import ScriptStudio.Editor.Highlight
import ScriptStudio.Studio.FileName
import ScriptStudio.Studio.Theme

/-!
# Editors

An editor holds a buffer, the file that the buffer came from, and what stands beside the text. The
column of line numbers and the highlights are brought up to date on certain events only, so that
they can lag behind the text.

These are `get_text`, `set_text` and `update_line_numbers` of `CodeEditor`, with
`SyntaxHighlighter.apply_highlight` and the marks of `_highlight_error_line`.
-/

namespace ScriptStudio

/-- A buffer with what belongs to it in its tab. -/
structure Editor where
  theme : Theme
  buffer : Buffer := {}
  file : Option FileName := none
  isModified : Bool := false
  /-- The text area has told of its first change. -/
  isReported : Bool := false
  /-- The text of the column of line numbers. -/
  numbers : String := "1"
  /-- The last window with completions. -/
  popup : Option Nat := none
  /-- By how many lines the wheel has scrolled, each time. -/
  scrolled : List Int := []
  /-- Where the column of line numbers was scrolled to last. -/
  view : Option String := none
  /-- What the scroll bar shows. -/
  bar : Option (List String) := none

namespace Editor

/-- The tag of the line that an error was found in. -/
def errorTag : String := "error_line"

/-- The numbers of so many lines. -/
def lineNumbers (count : Nat) : String :=
  "\n".intercalate ((List.range count).map fun n => toString (n + 1))

/-- The text. -/
def text (editor : Editor) : String := String.ofList editor.buffer.text

/-- The last part of the name of the file, or a stand-in. -/
def name (editor : Editor) : String :=
  match editor.file with
  | some file => file.base
  | none => "Untitled"

/-- The mark of unsaved changes. -/
def changeMark (editor : Editor) : String := if editor.isModified then " *" else ""

/-- Brings the line numbers up to date. -/
def renumber (editor : Editor) : Editor :=
  { editor with numbers := lineNumbers editor.buffer.lineCount }

/-- Replaces the whole text. The result counts as unmodified. -/
def setText (editor : Editor) (text : String) (intake : Intake := .whole) : Editor :=
  { ({ editor with buffer := editor.buffer.setText text.toList intake }).renumber with
    isModified := false }

/-- Takes the highlights away. -/
def withoutHighlights (buffer : Buffer) : Buffer :=
  { buffer with
    tags := buffer.tags.filter fun tag => !(HighlightKind.all.map (·.name)).contains tag.name }

/-- The tag of a highlight. -/
def highlightTag (buffer : Buffer) (highlight : Highlight) : Tag :=
  ⟨highlight.kind.name, buffer.place (buffer.position highlight.line highlight.start),
    buffer.place (buffer.position highlight.line highlight.stop)⟩

/-- Brings the highlights up to date. They are found in characters and placed by columns. -/
def rehighlight (editor : Editor) (columns : Columns := .points) : Editor :=
  let cleared := withoutHighlights editor.buffer
  let tags := (Highlight.ofContent cleared.content).map (highlightTag (cleared.spread columns))
  { editor with buffer := { cleared with tags := cleared.tags ++ tags } }

/-- Takes away the mark of an error. -/
def clearError (editor : Editor) : Editor :=
  { editor with buffer := editor.buffer.removeTag errorTag }

/-- Marks the line that an error was found in. -/
def markError (editor : Editor) (line : Nat) : Editor :=
  let buffer := editor.buffer.removeTag errorTag
  { editor with
    buffer := buffer.addTag errorTag (buffer.position line 0) (buffer.lineEnd line) }

end Editor

end ScriptStudio
