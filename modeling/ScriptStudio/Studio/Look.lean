import ScriptStudio.Studio.Theme

/-!
# The look of the studio

Which colour each part of the window takes from the theme.

These are `setup_style`, `setup_tags` and `apply_theme`.
-/

namespace ScriptStudio

/-- The value of an option of a style. -/
inductive StyleValue where
  | text (value : String)
  | number (value : Nat)
deriving DecidableEq

namespace Look

/-- Options of a part with the roles of their colours. -/
abbrev Roles := List (String × ColorRole)

/-- The colours of some options. -/
def colors (theme : Theme) (roles : Roles) : List (String × String) :=
  roles.map fun (option, role) => (option, theme.color role)

/-- A background. -/
def background (role : ColorRole) : Roles := [("background", role)]

/-- A background and a foreground. -/
def pair (back front : ColorRole) : Roles :=
  [("background", back), ("foreground", front)]

/-- The styles of the frames. -/
def styleRoles : List (String × Roles) :=
  [(".", pair .background .foreground ++ [("fieldbackground", .editorBackground)]),
    ("TFrame", background .background),
    ("TPanedWindow", background .background),
    ("Toolbar.TFrame", background .toolbarBackground),
    ("Toolbar.TButton", pair .buttonBackground .foreground),
    ("Toolbar.TLabel", pair .toolbarBackground .foreground),
    ("Toolbar.TSeparator", background .toolbarBackground),
    ("Statusbar.TFrame", background .background),
    ("Statusbar.TLabel", pair .background .foreground),
    ("Explorer.TFrame", background .background),
    ("Treeview", pair .editorBackground .foreground ++ [("fieldbackground", .editorBackground)]),
    ("TNotebook", background .background),
    ("TNotebook.Tab", pair .toolbarBackground .foreground)]

/-- The options of styles that are no colours. -/
def measures : String → List (String × StyleValue)
  | "Treeview" => [("rowheight", .number 22)]
  | "TNotebook.Tab" => [("padding", .text "[5, 2]")]
  | _ => []

/-- The styles of the frames in a theme. -/
def styles (theme : Theme) : List (String × List (String × StyleValue)) :=
  styleRoles.map fun (name, roles) =>
    (name, (colors theme roles).map (fun (option, color) => (option, .text color)) ++ measures name)

/-- The styles that differ in a state, with the state. -/
def stateRoles : List (String × String × Roles) :=
  [("Toolbar.TButton", "active", background .buttonActiveBackground),
    ("Treeview", "selected", pair .selectBackground .editorForeground),
    ("TNotebook.Tab", "selected", pair .editorBackground .foreground)]

/-- The styles that differ in a state: name, state and colours. -/
def stateStyles (theme : Theme) : List (String × String × List (String × String)) :=
  stateRoles.map fun (name, state, roles) => (name, state, colors theme roles)

/-- The colours of the output pane. -/
def console (theme : Theme) : List (String × String) :=
  colors theme (pair .consoleBackground .consoleForeground ++
    [("insertbackground", .insertBackground)])

/-- The colours of the text of an editor. -/
def editor (theme : Theme) : List (String × String) :=
  colors theme (pair .editorBackground .editorForeground ++
    [("selectbackground", .selectBackground), ("insertbackground", .insertBackground)])

/-- The colours of the line numbers. -/
def numbers (theme : Theme) : List (String × String) :=
  colors theme (pair .lineNumberBackground .lineNumberForeground)

/-- A tag with a foreground. -/
def foreground (theme : Theme) (tag : String × ColorRole) : String × List (String × String) :=
  (tag.1, colors theme [("foreground", tag.2)])

/-- The colours of what is written to the output pane. -/
def consoleTags (theme : Theme) : List (String × List (String × String)) :=
  [("output", ColorRole.consoleOutput), ("error", .consoleError), ("info", .consoleInfo),
    ("warning", .consoleWarning), ("success", .consoleSuccess), ("boolean", .consoleBoolean),
    ("number", .consoleNumber)].map (foreground theme)

/-- The colours of marked text in an editor. Questions and lines with errors look the same in every
theme. -/
def editorTags (theme : Theme) : List (String × List (String × String)) :=
  [("keyword", ColorRole.keyword), ("logical", .logical), ("boolean", .boolean),
    ("string", .string), ("number", .number), ("comment", .comment), ("operator", .operator),
    ("delimiter", .delimiter)].map (foreground theme) ++
  [("input", [("foreground", "#A259FF")]), ("error_line", [("background", "#ffcccc")]),
    ("match", colors theme (pair .matchBackground .matchForeground))]

end Look

end ScriptStudio
