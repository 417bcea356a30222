import ScriptStudio.Studio.Command

/-!
# Sessions

A session begins with the start of the studio and goes on with what the user does. After the start
and after every deed, the tasks that wait are done in their order.

The start is `DoroLangIDE.__init__`.
-/

namespace ScriptStudio

/-- What a user does. -/
inductive Deed where
  | menu (labels : List String)
  | key (name : String)
  | toolbar (label : String)
  | emptyConsole
  | close
  | type (text : String)
  | place (cursor : String) (selection : Option (String × String))
  | textEvent (event : TextEvent) (cursorHidden : Bool)
  | scroll (positions : List String)
  | selectTab (place : Nat)
  | clickCross (place : Nat)
  | window (entry : WindowEntry) (events : List WindowEvent)
  | doubleClickRow (path : String)
  | rowMenu (path : String) (choice : Option String)
  | line (line : String)
  /-- Nothing is done: the user only looks. -/
  | look

namespace Studio

/-! ## Waiting tasks -/

/-- Does a task. -/
def doTask : Task → Act Unit
  | .highlight editor => changeEditor editor (·.rehighlight)
  | .noticeTab => do
    updateTitle
    updateStatus
  | .execute code => execute false code
  | .report editor => changed editor

/-- Does tasks one after the other. -/
def doTasks : List Task → Act Unit
  | [] => return ()
  | task :: rest => do
    doTask task
    doTasks rest

/-- Does the tasks that wait. -/
def settle : Act Unit := do
  let tasks := (← get).tasks
  modify fun studio => { studio with tasks := [] }
  doTasks tasks

/-! ## The start -/

/-- The style of the frames: the first of the preferred ones that is there, or else the first of
all. -/
def pickStyle (styles : List String) : Option String :=
  (["clam", "alt"].find? fun style => styles.contains style) <|> styles.head?

/-- The folder of the last session, if it is still there. -/
def lastFolder? (disk : Disk) (folder : Datum) : Except Trouble (Option String) :=
  if !folder.isTruthy then .ok none
  else
    match folder with
    | .text path => .ok (if disk.isDirectory path then some path else none)
    | .list _ => .error (.noFileName folder.typeName)
    | .object _ => .error (.noFileName folder.typeName)
    | .float _ => .error (.noFileName folder.typeName)
    | .int n => (Recent.isChannel n).map fun _ => none
    | _ => .ok none

/-- Shows the folder of the last session. -/
def showLastFolder : Act Unit := do
  let studio ← get
  match ← orTrouble (lastFolder? studio.site.disk studio.lastFolder) with
  | some path => onSite (Site.populate path)
  | none => return ()

/-- Greets the user in the output pane. -/
def greet : Act Unit := do
  if (← get).isDemo then
    write (·.warning "IDE started in demo mode.")
    write (·.warning ("For full functionality, place lexer.py, parser.py, interpreter.py in the " ++
      "same folder."))
  else
    write (·.info "Enhanced DoroLang IDE started!")
    write (·.info "New features: boolean values, logical operators, conditionals")
    write (·.info "Press F5 to run code, Ctrl+Space for autocomplete")

/-- Sets the studio up. -/
def setUp (styles : List String) : Act Unit := do
  printLine "Initializing Enhanced DoroLang IDE..."
  modify fun studio => { studio with title := "DoroLang IDE" }
  printLine (if (← get).isDemo then "⚠️ Using demo mode (DoroLang modules not loaded)"
    else "✅ Using real DoroLang interpreter")
  loadSettings
  modify fun studio => { studio with
    chosenTheme := studio.theme
    frameStyle := pickStyle styles }
  printLine "Creating interface..."
  refreshRecentMenu
  modify fun studio => { studio with
    cursorText := some "Line: 1, Column: 1"
    status := "Ready" }
  applyTheme
  showLastFolder
  newWelcomeTab
  greet
  printLine "✅ Enhanced DoroLang IDE successfully initialized!"

/-- Starts the studio, for which frames of some styles are at hand. -/
def start (styles : List String) : Act Unit := do
  printLine "✅ Modern fonts set (Segoe UI, Consolas)."
  attempt (setUp styles) fun trouble => do
    printLine ("❌ Critical initialization error: " ++ trouble.message)
    throw trouble

/-- The studio before its start. -/
def onDisk (disk : Disk) (replies : List Value) (isDemo : Bool) (reports : Reports := .typed) :
    Studio :=
  { site := { disk, desk := { replies }, explorer := { icon := "doro_icon" } }
    machine := { input := .replies [] }
    isDemo
    reports }

/-! ## Deeds -/

/-- Performs a command if there is one. -/
def performFound : Option Command → Act Unit
  | some command => perform command
  | none => return ()

/-- Selects the tab at a place. -/
def selectTabAt (place : Nat) : Act Unit := do
  match (← get).notebook.ids[place]? with
  | some id => selectTab id
  | none => return ()

/-- Opens the file of a row of the explorer. -/
def openRow (path : String) : Act Unit := do
  match ← onSite (Site.fileAtRow? path) with
  | some path => openFile (.typed path)
  | none => return ()

/-- Shows the menu of a row of the explorer and takes a choice from it. -/
def useRowMenu (path : String) (choice : Option String) : Act Unit := do
  onSite (Site.showMenu path)
  match choice with
  | some label =>
    performFound (Menu.find? (Menu.explorer (← get).site.explorer.allowsChange) [label])
  | none => return ()

/-- Follows what the user does. -/
def follow : Deed → Act Unit
  | .menu labels => do performFound (Menu.find? (Menu.bar (← get).recentMenu) labels)
  | .key name => performFound (Menu.keys.lookup name)
  | .toolbar label => performFound (Menu.buttons.lookup label)
  | .emptyConsole => write (·.clear)
  | .close => close
  | .type text => typeText text
  | .place cursor selection => placeCursor cursor selection
  | .textEvent event cursorHidden => handleEvent event cursorHidden
  | .scroll positions => do scrolled (← currentId) positions
  | .selectTab place => selectTabAt place
  | .clickCross place => closeTabAt place
  | .window entry events => useWindow entry events
  | .doubleClickRow path => openRow path
  | .rowMenu path choice => useRowMenu path choice
  | .line line => runLine line
  | .look => return ()

/-- An action and then the tasks that wait, which are done also after a trouble. -/
def thenSettle (act : Act Unit) : Act Unit := fun studio =>
  match act studio with
  | .ok _ studio => settle studio
  | .error trouble studio =>
    match settle studio with
    | .ok _ studio => .error trouble studio
    | .error later studio => .error later studio

end Studio

end ScriptStudio
