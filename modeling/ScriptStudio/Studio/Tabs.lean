import ScriptStudio.Studio.Preferences
import ScriptStudio.Studio.Recent
import ScriptStudio.Studio.StudioText
import ScriptStudio.Text.Capitalize

/-!
# Opening, saving and closing tabs

A tab is made before its file is read, so that a file that cannot be read leaves an empty tab.
Closing a tab with unsaved changes asks first.

These are `new_file`, `open_file`, `open_file_from_path`, `open_folder`, `save_file`,
`save_as_file`, `check_save_changes`, `close_current_tab`, `close_all_tabs`, `_create_new_tab`,
`on_tab_changed`, `on_tab_close_press`, `switch_theme`, `update_title`, `update_status` and
`on_closing`.
-/

namespace ScriptStudio

namespace Studio

/-! ## Title and status -/

/-- Says where the cursor of the current editor is. -/
def updateStatus : Act Unit :=
  modify fun studio =>
    match studio.current? with
    | some (_, editor) =>
      let place := editor.buffer.place editor.buffer.cursor
      { studio with cursorText := some s!"Line: {place.line}, Column: {place.column + 1}" }
    | none => { studio with cursorText := some "" }

/-- The name of the theme for the title. -/
def themeTitle : Datum → Except Trouble String
  | .text name => .ok (Text.capitalize name)
  | other => .error (.noAttribute other.typeName "capitalize")

/-- Brings the title of the window and the label of the current tab up to date. -/
def updateTitle : Act Unit :=
  attempt (do
    let studio ← get
    let (name, mark) ←
      match studio.current? with
      | some (id, editor) => do
        changeNotebook (·.relabel id (editor.name ++ editor.changeMark ++ " "))
        pure (editor.name, editor.changeMark)
      | none => pure ("No open files", "")
    let theme ← orTrouble (themeTitle studio.theme)
    modify fun studio => { studio with title := s!"DoroLang IDE ({theme}) - {name}{mark}" })
  fun trouble => printLine ("Ошибка обновления заголовка: " ++ trouble.message)

/-! ## Themes -/

/-- The theme of a setting. -/
def themeOf : Datum → Except Trouble Theme
  | .text name =>
    match Theme.ofName? name with
    | some theme => .ok theme
    | none => .error (.unknownTheme (.text name))
  | .list _ => .error (.unhashable "list")
  | .object _ => .error (.unhashable "dict")
  | other => .error (.unknownTheme other)

/-- Lets the highlights of editors be brought up to date. -/
def scheduleHighlights : List Nat → Act Unit
  | [] => return ()
  | id :: rest => do
    scheduleHighlight id
    scheduleHighlights rest

/-- Shows everything in the colours of the theme. -/
def applyTheme : Act Unit :=
  attempt (do
    let studio ← get
    let theme ← orTrouble (themeOf studio.theme)
    modify fun studio => { studio with
      paintedTheme := some theme
      editors := studio.editors.map fun (id, editor) => (id, { editor with theme }) }
    scheduleHighlights (studio.editors.map (·.1)))
  fun trouble => printLine ("Error applying theme: " ++ trouble.message)

/-- Makes a theme the theme in force. -/
def setTheme (theme : Datum) : Act Unit := do
  modify fun studio => { studio with theme }
  applyTheme

/-- Changes to the theme that is marked in the menu. -/
def switchTheme (theme : Theme) : Act Unit := do
  let name := Datum.text theme.name
  modify fun studio => { studio with chosenTheme := name }
  if !(name.sameName (← get).theme) then
    setTheme name
    printLine ("Theme switched to: " ++ theme.name)

/-! ## New tabs -/

/-- Adds a tab with an empty editor, selects it and gives its number. -/
def addTab (theme : Theme) : Act Nat := do
  let id := (← get).notebook.nextId
  scheduleHighlight id
  changeNotebook (·.add "Untitled *")
  modify fun studio => { studio with editors := studio.editors ++ [(id, { theme })] }
  selectTab id
  return id

/-- Reads a file into an editor. -/
def readInto (id : Nat) (name : FileName) (intake : Intake := .whole) : Act Unit := do
  let text ← orTrouble (((← get).site.disk.readText name.path).mapError .disk)
  setText id text intake
  changeEditor id fun editor => { editor with file := some name, isModified := false }
  rememberFile name
  refreshRecentMenu
  saveSettings

/-- Makes a tab and fills it. -/
def newTab (fill : Nat → Act Unit) : Act Unit :=
  attempt (do
    let theme ← orTrouble (themeOf (← get).theme)
    let id ← addTab theme
    fill id
    updateTitle)
  fun trouble => do
    printLine ("Error creating new tab: " ++ trouble.message)
    tell .error "Error" ("Failed to create tab: " ++ trouble.message)

/-- Makes a tab with the first program for new users. -/
def newWelcomeTab : Act Unit := newTab fun id => setText id StudioText.welcome

/-- Makes an empty tab. -/
def newFile : Act Unit := do
  newTab fun _ => return ()
  setStatus "New file created"

/-- The tab that shows a file. -/
def tabOf? (studio : Studio) (name : FileName) : Option Nat :=
  (studio.editors.find? fun (_, editor) => editor.file == some name).map (·.1)

/-- Opens a file: shows its tab, or makes one. -/
def openFile (name : FileName) (intake : Intake := .whole) : Act Unit := do
  match (← get).tabOf? name with
  | some id => selectTab id
  | none =>
    newTab fun id => readInto id name intake
    setStatus ("File opened: " ++ name.base)

/-- Asks for a file and opens it. -/
def askAndOpen : Act Unit := do
  match ← askPath .openFile "Open DoroLang File" with
  | some path => openFile (.typed path)
  | none => return ()

/-- Asks for a folder and shows it in the explorer. -/
def openFolder : Act Unit := do
  match ← askPath .folder "Select Project Folder" with
  | some path =>
    onSite (Site.populate path)
    modify fun studio => { studio with lastFolder := .text path }
    setStatus ("Folder opened: " ++ Path.baseName path)
  | none => return ()

/-! ## Saving -/

/-- Writes the text of an editor to a file. -/
def writeEditor (editor : Editor) (path : String) : Act Unit := do
  let disk ← orTrouble (((← get).site.disk.writeText path editor.text).mapError .disk)
  modify fun studio => { studio with site := { studio.site with disk } }

/-- Reports that a file could not be saved. -/
def reportUnsaved (trouble : Trouble) : Act Bool := do
  tell .error "Error" ("Failed to save file: " ++ trouble.message)
  return false

/-- Asks for a name and saves the current editor under it. The result says whether it was saved. -/
def saveAs : Act Bool :=
  attempt (do
    match (← get).current? with
    | none => return false
    | some (id, editor) =>
      match ← askPath .saveFile "Save DoroLang File" with
      | none => return false
      | some path =>
        writeEditor editor path
        changeEditor id fun editor =>
          { editor with file := some (.typed path), isModified := false }
        updateTitle
        setStatus ("File saved: " ++ Path.baseName path)
        return true)
  fun trouble => do
    printLine ("Error saving file as: " ++ trouble.message)
    reportUnsaved trouble

/-- Saves the current editor. The result says whether it was saved. -/
def save : Act Bool :=
  attempt (do
    match (← get).current? with
    | none => return false
    | some (id, editor) =>
      match editor.file with
      | none => saveAs
      | some file =>
        writeEditor editor file.path
        changeEditor id fun editor => { editor with isModified := false }
        updateTitle
        setStatus ("File saved: " ++ file.base)
        return true)
  reportUnsaved

/-! ## Closing -/

/-- Asks what to do with unsaved changes of a tab, and saves them if wanted. The result says whether
to go on. -/
def settleChanges (id : Nat) : Act Bool := do
  match (← get).editors.lookup id with
  | none => return true
  | some editor =>
    if !editor.isModified then return true
    selectTab id
    let message := s!"Save changes in file '{editor.name}'?"
    match ← onSite (Site.ask .yesNoCancel "Unsaved Changes" (some message)) with
    | some (.bool true) => save
    | some (.bool false) => return true
    | _ => return false

/-- Settles the changes of tabs one after the other, as long as the user goes on. -/
def settleAll : List Nat → Act Bool
  | [] => return true
  | id :: rest => do
    if ← settleChanges id then settleAll rest else return false

/-- Takes tabs away. -/
def dropTabs : List Nat → Act Unit
  | [] => return ()
  | id :: rest => do
    dropTab id
    dropTabs rest

/-- Closes the current tab. After the last tab comes a new one. -/
def closeTab : Act Unit := do
  match (← get).current? with
  | none => return ()
  | some (id, _) =>
    if ← settleChanges id then
      dropTab id
      updateTitle
      if (← get).notebook.tabs.isEmpty then newWelcomeTab

/-- Closes all tabs and makes a new one. -/
def closeAllTabs : Act Unit := do
  if ← settleAll ((← get).editors.map (·.1)) then
    dropTabs (← get).notebook.ids
    updateTitle
    newWelcomeTab

/-- Closes the tab at a place. Nothing comes after the last tab. -/
def closeTabAt (place : Nat) : Act Unit := do
  match (← get).notebook.ids[place]? with
  | none => return ()
  | some id =>
    if ← settleChanges id then
      dropTab id
      updateTitle

/-- Closes the studio. -/
def close : Act Unit := do
  if ← settleAll ((← get).editors.map (·.1)) then
    saveSettings
    modify fun studio => { studio with isOpen := false }

end Studio

end ScriptStudio
