/-!
# Colour themes

A theme gives every part of the window and every kind of lexeme a colour.

The table is `THEMES`.
-/

namespace ScriptStudio

/-- A colour theme. -/
inductive Theme where
  | light
  | dark
deriving DecidableEq

/-- What a colour is for. -/
inductive ColorRole where
  | background
  | foreground
  | toolbarBackground
  | buttonBackground
  | buttonActiveBackground
  | editorBackground
  | editorForeground
  | lineNumberBackground
  | lineNumberForeground
  | selectBackground
  | insertBackground
  | matchBackground
  | matchForeground
  | consoleBackground
  | consoleForeground
  | keyword
  | logical
  | boolean
  | string
  | number
  | comment
  | operator
  | delimiter
  | consoleOutput
  | consoleError
  | consoleInfo
  | consoleWarning
  | consoleSuccess
  | consoleBoolean
  | consoleNumber
deriving DecidableEq

/-- Every role with the name by which it is looked up. -/
def ColorRole.names : List (ColorRole × String) :=
  [(.background, "bg"),
    (.foreground, "fg"),
    (.toolbarBackground, "toolbar_bg"),
    (.buttonBackground, "button_bg"),
    (.buttonActiveBackground, "button_active_bg"),
    (.editorBackground, "editor_bg"),
    (.editorForeground, "editor_fg"),
    (.lineNumberBackground, "line_num_bg"),
    (.lineNumberForeground, "line_num_fg"),
    (.selectBackground, "select_bg"),
    (.insertBackground, "insert_bg"),
    (.matchBackground, "match_bg"),
    (.matchForeground, "match_fg"),
    (.consoleBackground, "console_bg"),
    (.consoleForeground, "console_fg"),
    (.keyword, "keyword"),
    (.logical, "logical"),
    (.boolean, "boolean"),
    (.string, "string"),
    (.number, "number"),
    (.comment, "comment"),
    (.operator, "operator"),
    (.delimiter, "delimiter"),
    (.consoleOutput, "console_output"),
    (.consoleError, "console_error"),
    (.consoleInfo, "console_info"),
    (.consoleWarning, "console_warning"),
    (.consoleSuccess, "console_success"),
    (.consoleBoolean, "console_boolean"),
    (.consoleNumber, "console_number")]

/-- The role of a name. -/
def ColorRole.ofName? (name : String) : Option ColorRole :=
  (names.find? (·.2 == name)).map (·.1)

namespace Theme

/-- The name of a theme. -/
def name : Theme → String
  | .light => "light"
  | .dark => "dark"

/-- The theme of a name. -/
def ofName? : String → Option Theme
  | "light" => some .light
  | "dark" => some .dark
  | _ => none

/-- The colours of the light theme. -/
def lightColor : ColorRole → String
  | .background => "#f0f0f0"
  | .foreground => "#000000"
  | .toolbarBackground => "#f0f0f0"
  | .buttonBackground => "#e1e1e1"
  | .buttonActiveBackground => "#c7c7c7"
  | .editorBackground => "#ffffff"
  | .editorForeground => "#000000"
  | .lineNumberBackground => "#f0f0f0"
  | .lineNumberForeground => "#808080"
  | .selectBackground => "#add8e6"
  | .insertBackground => "#000000"
  | .matchBackground => "#bde6ff"
  | .matchForeground => "#000000"
  | .consoleBackground => "#ffffff"
  | .consoleForeground => "#000000"
  | .keyword => "#0000ff"
  | .logical => "#a31515"
  | .boolean => "#0000ff"
  | .string => "#a31515"
  | .number => "#098658"
  | .comment => "#008000"
  | .operator => "#000000"
  | .delimiter => "#000000"
  | .consoleOutput => "#000000"
  | .consoleError => "#ff0000"
  | .consoleInfo => "#0000ff"
  | .consoleWarning => "#ff8c00"
  | .consoleSuccess => "#008000"
  | .consoleBoolean => "#a31515"
  | .consoleNumber => "#098658"

/-- The colours of the dark theme. -/
def darkColor : ColorRole → String
  | .background => "#252526"
  | .foreground => "#cccccc"
  | .toolbarBackground => "#333333"
  | .buttonBackground => "#3c3c3c"
  | .buttonActiveBackground => "#555555"
  | .editorBackground => "#1e1e1e"
  | .editorForeground => "#d4d4d4"
  | .lineNumberBackground => "#252526"
  | .lineNumberForeground => "#858585"
  | .selectBackground => "#264f78"
  | .insertBackground => "#aeafad"
  | .matchBackground => "#3a6f9a"
  | .matchForeground => "#ffffff"
  | .consoleBackground => "#1e1e1e"
  | .consoleForeground => "#cccccc"
  | .keyword => "#569cd6"
  | .logical => "#c586c0"
  | .boolean => "#569cd6"
  | .string => "#ce9178"
  | .number => "#b5cea8"
  | .comment => "#6a9955"
  | .operator => "#d4d4d4"
  | .delimiter => "#d4d4d4"
  | .consoleOutput => "#cccccc"
  | .consoleError => "#f44747"
  | .consoleInfo => "#3794ff"
  | .consoleWarning => "#f9a622"
  | .consoleSuccess => "#42d75a"
  | .consoleBoolean => "#c586c0"
  | .consoleNumber => "#b5cea8"

/-- The colour of a role in a theme. -/
def color : Theme → ColorRole → String
  | .light => lightColor
  | .dark => darkColor

end Theme

end ScriptStudio
