import ScriptStudio.Editor.Transcript
import ScriptStudio.Machine.Basic
import ScriptStudio.Studio.Editor
import ScriptStudio.Studio.Explorer
import ScriptStudio.Studio.Notebook
import ScriptStudio.Studio.Window

/-!
# The studio

The state of the studio and the actions that all others are made of. An action ends with a result or
with a trouble, and the state is there in either case: what was done before a trouble stays done.

Some work waits until the current action has ended. It stands in a queue of tasks.

Text areas differ in when they tell that their text was changed. This is a parameter, `Reports`.

The state is that of `DoroLangIDE`, and tasks are put into the queue by `after`.
-/

namespace ScriptStudio

/-- Work that waits. -/
inductive Task where
  | highlight (editor : Nat)
  | noticeTab
  | execute (code : String)
  | report (editor : Nat)
deriving DecidableEq

/-- An entry of the menu of recent files. -/
inductive RecentItem where
  /-- There are no recent files. -/
  | nothing
  | file (name : FileName)
deriving DecidableEq

/-- When a text area tells that its text was changed. -/
inductive Reports where
  /-- At once, each time that a text is typed. -/
  | typed
  /-- Once, when the action has ended that changed the text first. -/
  | first
deriving DecidableEq

/-- The state of the studio. -/
structure Studio where
  site : Site := {}
  machine : Machine := {}
  /-- Scripts can be edited but not run. -/
  isDemo : Bool := false
  transcript : Transcript := {}
  notebook : Notebook := {}
  /-- The editors of the open tabs. -/
  editors : List (Nat × Editor) := []
  /-- The editors of closed tabs, which windows may still refer to. -/
  closedEditors : List (Nat × Editor) := []
  windows : List Window := []
  nextWindow : Nat := 1
  tasks : List Task := []
  reports : Reports := .typed
  /-- The name of the theme. -/
  theme : Datum := .text Theme.light.name
  /-- The name of the theme that is marked in the menu. -/
  chosenTheme : Datum := .text Theme.light.name
  recentFiles : Datum := .list []
  lastFolder : Datum := .null
  recentMenu : List RecentItem := []
  title : String := ""
  status : String := ""
  /-- What is said about the place of the cursor. -/
  cursorText : Option String := none
  /-- The events passed on to editors. -/
  events : Array String := #[]
  isOpen : Bool := true
  /-- The style of the frames. -/
  frameStyle : Option String := none
  /-- The theme in whose colours the main window appears. -/
  paintedTheme : Option Theme := none

/-- An action on the studio. -/
abbrev Act := EStateM Trouble Studio

namespace Studio

/-- Does something and handles the troubles that can be handled. -/
def attempt {α : Type} (act : Act α) (handle : Trouble → Act α) : Act α := fun studio =>
  match act studio with
  | .ok result studio => .ok result studio
  | .error trouble studio =>
    if trouble.isFinal then .error trouble studio else handle trouble studio

/-- Acts on the site. -/
def onSite {α : Type} (act : SiteAct α) : Act α := fun studio =>
  match act studio.site with
  | .ok result site => .ok result { studio with site }
  | .error trouble site => .error trouble { studio with site }

/-- A result or a trouble as an action. -/
def orTrouble {α : Type} : Except Trouble α → Act α
  | .ok result => pure result
  | .error trouble => throw trouble

/-- Prints a line. -/
def printLine (line : String) : Act Unit := onSite (Site.printLine line)

/-- Shows a box. -/
def tell (kind : BoxKind) (title message : String) : Act Unit :=
  onSite (Site.tell kind title message)

/-- Asks for a path. No reply, and the empty one, are none. -/
def askPath (kind : BoxKind) (title : String) : Act (Option String) := do
  match ← onSite (Site.ask kind title none) with
  | some (.text "") => return none
  | some (.text path) => return some path
  | _ => return none

/-- Writes to the output pane. -/
def write (change : Transcript → Transcript) : Act Unit :=
  modify fun studio => { studio with transcript := change studio.transcript }

/-- Sets the text of the status bar. -/
def setStatus (status : String) : Act Unit := modify fun studio => { studio with status }

/-- Puts a task at the end of the queue. -/
def enqueue (task : Task) : Act Unit :=
  modify fun studio => { studio with tasks := studio.tasks ++ [task] }

/-! ## Editors -/

/-- The number and the editor of the selected tab. -/
def current? (studio : Studio) : Option (Nat × Editor) :=
  studio.notebook.selected.bind fun id => (studio.editors.lookup id).map fun editor => (id, editor)

/-- The editor of a number, open or closed. -/
def editorOf? (studio : Studio) (id : Nat) : Option Editor :=
  studio.editors.lookup id <|> studio.closedEditors.lookup id

/-- Changes the editor of a number in a list. -/
def changeIn (id : Nat) (change : Editor → Editor) (editors : List (Nat × Editor)) :
    List (Nat × Editor) :=
  editors.map fun (other, editor) => (other, if other = id then change editor else editor)

/-- Changes the editor of a number. -/
def changeEditor (id : Nat) (change : Editor → Editor) : Act Unit :=
  modify fun studio => { studio with
    editors := changeIn id change studio.editors
    closedEditors := changeIn id change studio.closedEditors }

/-- Changes the buffer of an editor. -/
def changeBuffer (id : Nat) (change : Buffer → Buffer) : Act Unit :=
  changeEditor id fun editor => { editor with buffer := change editor.buffer }

/-- Lets the highlights of an editor be brought up to date, once and after all that waits now. -/
def scheduleHighlight (id : Nat) : Act Unit :=
  modify fun studio => { studio with
    tasks := studio.tasks.filter (· != .highlight id) ++ [.highlight id] }

/-- Lets the first change of a text be told, where that is when changes are told. -/
def scheduleReport (id : Nat) : Act Unit := do
  let studio ← get
  let isChanged := (studio.editorOf? id).any fun editor =>
    !editor.isReported && !editor.buffer.text.isEmpty
  if studio.reports = .first ∧ isChanged then
    changeEditor id fun editor => { editor with isReported := true }
    enqueue (.report id)

/-- Replaces the text of an editor. -/
def setText (id : Nat) (text : String) (intake : Intake := .whole) : Act Unit := do
  changeEditor id (·.setText text intake)
  scheduleHighlight id
  scheduleReport id

/-! ## Tabs -/

/-- Changes the notebook. A change of the selected tab is noticed later. -/
def changeNotebook (change : Notebook → Notebook) : Act Unit := do
  let before := (← get).notebook
  let after := change before
  modify fun studio => { studio with notebook := after }
  if before.selected != after.selected then enqueue .noticeTab

/-- Selects a tab. -/
def selectTab (id : Nat) : Act Unit := changeNotebook (·.select id)

/-- Takes a tab away with its editor. -/
def dropTab (id : Nat) : Act Unit := do
  changeNotebook (·.forget id)
  modify fun studio => { studio with
    editors := studio.editors.filter (·.1 != id)
    closedEditors := studio.closedEditors ++ studio.editors.filter (·.1 == id) }

/-! ## Windows -/

/-- Opens a window and gives its number. -/
def openWindow (body : WindowBody) : Act Nat := do
  let id := (← get).nextWindow
  modify fun studio => { studio with
    windows := studio.windows ++ [⟨id, body⟩]
    nextWindow := id + 1 }
  return id

/-- Closes a window. -/
def closeWindow (id : Nat) : Act Unit :=
  modify fun studio => { studio with windows := studio.windows.filter (·.id != id) }

/-- Closes the window with the completions of an editor. -/
def closePopup (editor : Nat) : Act Unit := do
  match ((← get).editorOf? editor).bind (·.popup) with
  | some window =>
    closeWindow window
    changeEditor editor fun editor => { editor with popup := none }
  | none => return ()

/-! ## The machine -/

/-- The source of answers that a script gets: the replies of the user, if its questions are shown in
dialogs. -/
def answersFor (replies : List Value) : Input → Input
  | .replies _ => .replies replies
  | .lines pending => .lines pending

/-- The replies that a script leaves. -/
def repliesLeft (replies : List Value) : Input → List Value
  | .replies pending => pending
  | .lines _ => replies

/-- Runs a step of the machine. It prints to the screen of the site, and its questions are boxes. -/
def onMachine {α : Type} (step : Exec α) : Act (Except Stop α) := fun studio =>
  let site := studio.site
  let start := { studio.machine with
    screen := site.screen
    input := answersFor site.desk.replies studio.machine.input
    asked := #[] }
  let (result, machine) : Except Stop α × Machine :=
    match step start with
    | .ok a machine => (.ok a, machine)
    | .error stop machine => (.error stop, machine)
  let desk : Desk :=
    { replies := repliesLeft site.desk.replies machine.input
      shown := machine.asked.foldl (fun shown prompt =>
        shown.push ⟨.text, "Input", some prompt⟩) site.desk.shown }
  .ok result { studio with machine, site := { site with screen := machine.screen, desk } }

end Studio

end ScriptStudio
