import ScriptStudio.Studio.Running
import ScriptStudio.Studio.Windows

/-!
# Commands

Commands are given through the menus, through keys and through the tool bar.

These are `bind_shortcuts`, `setup_menu`, `setup_toolbar` and `FileExplorer.create_context_menu`.
-/

namespace ScriptStudio

/-- A command. -/
inductive Command where
  | newFile
  | showTemplates
  | openFolder
  | openFile
  | openRecent (name : FileName)
  | save
  | saveAs
  | closeTab
  | closeAllTabs
  | exit
  | passOn (event : String)
  | find
  | replace
  | goToLine
  | toggleComment
  | complete
  | run
  | runSelection
  | clearConsole
  | resetMachine
  | checkProgram
  | showSettings
  | switchTheme (theme : Theme)
  | showLanguageHelp
  | showShortcuts
  | showAbout
  | createFile
  | createFolder
  | renameSelected
  | deleteSelected
  | refreshExplorer
deriving DecidableEq

/-- An entry of a menu. -/
inductive MenuItem where
  | command (label : String) (command : Command)
  | radio (label : String) (command : Command)
  | disabled (label : String)
  | separator
  | submenu (label : String) (items : List MenuItem)

namespace Menu

/-- The menu of recent files. -/
def recent (items : List RecentItem) : List MenuItem :=
  items.map fun
    | .nothing => .disabled "(No recent files)"
    | .file name => .command name.base (.openRecent name)

/-- The menu for files. -/
def file (items : List RecentItem) : List MenuItem :=
  [.command "New File (Ctrl+N)" .newFile,
    .command "From Template (Ctrl+T)" .showTemplates,
    .separator,
    .command "Open Folder..." .openFolder,
    .command "Open File (Ctrl+O)" .openFile,
    .separator,
    .submenu "Recent Files" (recent items),
    .separator,
    .command "Save (Ctrl+S)" .save,
    .command "Save As (Ctrl+Shift+S)" .saveAs,
    .separator,
    .command "Close Tab (Ctrl+W)" .closeTab,
    .command "Close All Tabs" .closeAllTabs,
    .separator,
    .command "Exit" .exit]

/-- The menu for editing. -/
def edit : List MenuItem :=
  [.command "Undo (Ctrl+Z)" (.passOn "Undo"),
    .command "Redo (Ctrl+Y)" (.passOn "Redo"),
    .separator,
    .command "Cut (Ctrl+X)" (.passOn "Cut"),
    .command "Copy (Ctrl+C)" (.passOn "Copy"),
    .command "Paste (Ctrl+V)" (.passOn "Paste"),
    .command "Select All (Ctrl+A)" (.passOn "SelectAll"),
    .separator,
    .command "Find... (Ctrl+F)" .find,
    .command "Replace... (Ctrl+H)" .replace,
    .command "Go to Line... (Ctrl+G)" .goToLine,
    .separator,
    .command "Toggle Comment (Ctrl+/)" .toggleComment,
    .command "Autocomplete (Ctrl+Space)" .complete]

/-- The menu for running. -/
def run : List MenuItem :=
  [.command "Run Code (F5)" .run,
    .command "Run Selection (F9)" .runSelection,
    .separator,
    .command "Clear Console" .clearConsole,
    .command "Reset Variables" .resetMachine]

/-- The menu of tools. -/
def tools : List MenuItem :=
  [.command "Code Templates" .showTemplates,
    .command "Check Syntax" .checkProgram,
    .separator,
    .command "Settings" .showSettings]

/-- The menu for the view. -/
def view : List MenuItem :=
  [.submenu "Themes" [.radio "Light" (.switchTheme .light), .radio "Dark" (.switchTheme .dark)]]

/-- The menu for help. -/
def help : List MenuItem :=
  [.command "DoroLang Syntax" .showLanguageHelp,
    .command "Keyboard Shortcuts" .showShortcuts,
    .separator,
    .command "About" .showAbout]

/-- The menu bar. -/
def bar (items : List RecentItem) : List MenuItem :=
  [.submenu "📁 File" (file items),
    .submenu "✏️ Edit" edit,
    .submenu "▶️ Run" run,
    .submenu "🔧 Tools" tools,
    .submenu "🎨 View" view,
    .submenu "❓ Help" help]

/-- The menu of the explorer. -/
def explorer (allowsChange : Bool) : List MenuItem :=
  let change (label : String) (command : Command) : MenuItem :=
    if allowsChange then .command label command else .disabled label
  [.command "New File..." .createFile,
    .command "New Folder..." .createFolder,
    .separator,
    change "Rename..." .renameSelected,
    change "Delete" .deleteSelected,
    .separator,
    .command "Refresh" .refreshExplorer]

/-- The command that labels lead to, from the menu bar down. -/
def find? : (items : List MenuItem) → (labels : List String) → Option Command
  | _, [] => none
  | [], _ :: _ => none
  | .command label command :: rest, labels =>
    if labels = [label] then some command else find? rest labels
  | .radio label command :: rest, labels =>
    if labels = [label] then some command else find? rest labels
  | .submenu label items :: rest, first :: more =>
    if label = first then find? items more else find? rest (first :: more)
  | .disabled _ :: rest, labels => find? rest labels
  | .separator :: rest, labels => find? rest labels

/-- The keys with their commands. -/
def keys : List (String × Command) :=
  [("<Control-n>", .newFile),
    ("<Control-o>", .openFile),
    ("<Control-s>", .save),
    ("<Control-Shift-S>", .saveAs),
    ("<Control-w>", .closeTab),
    ("<F5>", .run),
    ("<F9>", .runSelection),
    ("<Control-t>", .showTemplates),
    ("<Control-slash>", .toggleComment),
    ("<Control-f>", .find),
    ("<Control-h>", .replace),
    ("<Control-g>", .goToLine)]

/-- The buttons of the tool bar with their commands. -/
def buttons : List (String × Command) :=
  [("📄 New", .newFile),
    ("📋 Template", .showTemplates),
    ("📁 Open", .openFile),
    ("💾 Save", .save),
    ("▶️ Run (F5)", .run),
    ("🔄 Selection (F9)", .runSelection),
    ("🧹 Clear", .clearConsole),
    ("✔️ Syntax", .checkProgram),
    ("💬 Comment", .toggleComment)]

end Menu

namespace Studio

/-- The name of the mode. -/
def mode (studio : Studio) : String := if studio.isDemo then "Demo Mode" else "Full Mode"

/-- The texts in the tool bar. -/
def toolbarTexts (studio : Studio) : List String :=
  Menu.buttons.map (·.1) ++ [studio.cursorText.getD "", s!"[{studio.mode}]"]

/-- Makes a file in the explorer and opens it. -/
def createFile : Act Unit := do
  match ← onSite Site.createFile with
  | some path =>
    openFile (.built path)
    onSite Site.refresh
  | none => return ()

/-- Does what a command says. -/
def perform : Command → Act Unit
  | .newFile => newFile
  | .showTemplates => showTemplates
  | .openFolder => openFolder
  | .openFile => askAndOpen
  | .openRecent name => openFile name
  | .save => discard save
  | .saveAs => discard saveAs
  | .closeTab => closeTab
  | .closeAllTabs => closeAllTabs
  | .exit => close
  | .passOn event => passOn event
  | .find => showFind false
  | .replace => showFind true
  | .goToLine => goToLine
  | .toggleComment => toggleComment
  | .complete => offerCompletionsHere
  | .run => run
  | .runSelection => runSelection
  | .clearConsole => clearConsole
  | .resetMachine => resetMachine
  | .checkProgram => checkProgram
  | .showSettings => showSettings
  | .switchTheme theme => switchTheme theme
  | .showLanguageHelp => tell .info "DoroLang Syntax" StudioText.languageHelp
  | .showShortcuts => tell .info "Keyboard Shortcuts" StudioText.shortcuts
  | .showAbout => do tell .info "About" (StudioText.about (← get).mode)
  | .createFile => createFile
  | .createFolder => onSite Site.createFolder
  | .renameSelected => onSite Site.renameSelected
  | .deleteSelected => onSite Site.deleteSelected
  | .refreshExplorer => onSite Site.refresh

end Studio

end ScriptStudio
