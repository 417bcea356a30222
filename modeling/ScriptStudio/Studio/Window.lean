import ScriptStudio.Editor.Completion
import ScriptStudio.Editor.FindReplace
import ScriptStudio.Settings.Datum
import ScriptStudio.Studio.Template
import ScriptStudio.Studio.Theme

/-!
# Windows beside the main window

A window keeps what the user has filled in and chosen in it.

They are those of `FindReplaceDialog`, `AutocompleteWindow`, `show_template_dialog` and
`show_settings`.
-/

namespace ScriptStudio

/-- What a window is for, with what is filled in. -/
inductive WindowBody where
  /-- A choice of templates. -/
  | templates (chosen : Option String)
  /-- The settings, with the name of the chosen theme. -/
  | settings (theme : Datum)
  /-- Finding, and perhaps replacing, in an editor. -/
  | find (editor : Nat) (replaces : Bool) (request : FindRequest)
  /-- Completions for a word in an editor. -/
  | completions (editor : Nat) (completion : Completion) (chosen : Option String)

/-- A window. -/
structure Window where
  id : Nat
  body : WindowBody

/-- What a user fills in. -/
structure WindowEntry where
  texts : List String := []
  checks : List (String × Bool) := []
  radio : Option String := none
  /-- The item to choose; the inner `none` is no item. -/
  choice : Option (Option String) := none

namespace WindowBody

/-- The title. -/
def title : WindowBody → String
  | .templates _ => "Code Template Selection"
  | .settings _ => "IDE Settings"
  | .find _ replaces _ => if replaces then "Find and Replace" else "Find"
  | .completions _ _ _ => ""

/-- The texts in the window. -/
def texts : WindowBody → List String
  | .templates _ => ["Apply", "Cancel"]
  | .settings _ =>
    ["Color Theme:", "Light", "Dark", "Editor Settings:", "Font Size:",
      "Auto-save before running", "Show line numbers", "Apply", "Cancel"]
  | .find _ replaces _ =>
    if replaces then
      ["Find:", "Replace with:", "Match case", "Wrap around", "Find Next", "Cancel", "Replace",
        "Replace All"]
    else ["Find:", "Match case", "Wrap around", "Find Next", "Cancel"]
  | .completions _ _ _ => []

/-- The items of the list in the window. -/
def items : WindowBody → List String
  | .templates _ => Template.all.map (·.title)
  | .completions _ completion _ => completion.offers
  | _ => []

/-- The window is for finding. -/
def isFind : WindowBody → Bool
  | .find _ _ _ => true
  | _ => false

/-- Fills in the texts of a search. -/
def fillRequest (replaces : Bool) (request : FindRequest) : List String → FindRequest
  | [] => request
  | [query] => { request with query }
  | query :: replacement :: _ =>
    if replaces then { request with query, replacement } else { request with query }

/-- Sets a check box of a search. -/
def checkRequest (request : FindRequest) (check : String × Bool) : FindRequest :=
  match check with
  | ("Match case", matchCase) => { request with matchCase }
  | ("Wrap around", wrapAround) => { request with wrapAround }
  | _ => request

/-- The theme of a label. -/
def themeOfLabel? : String → Option Theme
  | "Light" => some .light
  | "Dark" => some .dark
  | _ => none

/-- Fills a window in. -/
def fill (body : WindowBody) (entry : WindowEntry) : WindowBody :=
  match body with
  | .templates chosen => .templates (entry.choice.getD chosen)
  | .settings theme =>
    match entry.radio.bind themeOfLabel? with
    | some chosen => .settings (.text chosen.name)
    | none => .settings theme
  | .find editor replaces request =>
    .find editor replaces
      (entry.checks.foldl checkRequest (fillRequest replaces request entry.texts))
  | .completions editor completion chosen =>
    .completions editor completion (entry.choice.getD chosen)

end WindowBody

end ScriptStudio
