import ScriptStudio.Studio.Typing

/-!
# Using the windows

A window for finding stays with the editor that was current when it was opened. Only one such window
is open at a time.

These are `show_find_dialog`, `show_template_dialog` and `show_settings`, and what
`AutocompleteWindow` and `FindReplaceDialog` do when they are used.
-/

namespace ScriptStudio

/-- What a user does in a window after filling it in. -/
inductive WindowEvent where
  | button (label : String)
  | listDoubleClicked
  | listReturn
  | listEscape
  | focusLost
  | closed
deriving DecidableEq

namespace Studio

/-! ## Opening -/

/-- Shows the templates. -/
def showTemplates : Act Unit :=
  discard (openWindow (.templates (Template.all.head?.map (·.title))))

/-- Shows the settings. -/
def showSettings : Act Unit := do
  discard (openWindow (.settings (← get).theme))

/-- Shows the window for finding, or for finding and replacing, unless one of them is open. -/
def showFind (replaces : Bool) : Act Unit := do
  let studio ← get
  if !studio.windows.any (·.body.isFind) then
    match studio.current? with
    | none => tell .warning "Warning" "No active editor for search."
    | some (id, _) => discard (openWindow (.find id replaces {}))

/-! ## Buttons and lists -/

/-- Puts a template into the current editor. -/
def applyTemplate (window : Nat) (chosen : Option String) : Act Unit := do
  match chosen.bind Template.find?, (← get).current? with
  | some template, some (id, _) =>
    setText id template.code
    changeEditor id fun editor => { editor with isModified := true }
    closeWindow window
  | _, _ => return ()

/-- Makes the theme chosen in the settings the theme in force. What is no text was not chosen
there. -/
def chooseTheme : Datum → Act Unit
  | .text name => do
    if !((Datum.text name).sameName (← get).theme) then
      modify fun studio => { studio with chosenTheme := .text name }
      setTheme (.text name)
  | _ => return ()

/-- Puts the chosen settings in force. -/
def applySettings (window : Nat) (theme : Datum) : Act Unit := do
  chooseTheme theme
  saveSettings
  closeWindow window
  tell .info "Settings" "Settings saved successfully!"

/-- Finds or replaces one occurrence in the editor of the window. -/
def searchOnce (editor : Nat) (search : Buffer → Desk → Buffer × Desk) : Act Unit := do
  match (← get).editorOf? editor with
  | none => return ()
  | some found =>
    let (buffer, desk) := search found.buffer (← get).site.desk
    changeBuffer editor fun _ => buffer
    modify fun studio => { studio with site := { studio.site with desk } }

/-- Replaces all occurrences in the editor of the window, which is closed after that. -/
def replaceAll (window editor : Nat) (request : FindRequest) : Act Unit := do
  match (← get).editorOf? editor with
  | none => return ()
  | some found =>
    match request.replaceAll found.buffer (← get).site.desk with
    | .nothingSought => return ()
    | .endless => throw .endless
    | .done buffer desk =>
      changeBuffer editor fun _ => buffer
      modify fun studio => { studio with site := { studio.site with desk } }
      closeWindow window

/-- Puts the chosen completion into its editor. -/
def acceptCompletion (window editor : Nat) (completion : Completion) (chosen : Option String) :
    Act Unit := do
  match chosen with
  | some word =>
    changeBuffer editor fun buffer => Completion.accept buffer completion.typed word
    closePopup editor
  | none => return ()
  closeWindow window

/-- Does what a button of a window says. -/
def pressButton (window : Window) (label : String) : Act Unit :=
  match window.body, label with
  | .templates chosen, "Apply" => applyTemplate window.id chosen
  | .settings theme, "Apply" => applySettings window.id theme
  | .find editor _ request, "Find Next" => searchOnce editor request.findNext
  | .find editor true request, "Replace" => searchOnce editor request.replace
  | .find editor true request, "Replace All" => replaceAll window.id editor request
  | _, "Cancel" => closeWindow window.id
  | _, _ => return ()

/-- Handles what a user does in a window. -/
def handleWindow (window : Window) (event : WindowEvent) : Act Unit :=
  match window.body, event with
  | _, .button label => pressButton window label
  | _, .closed => closeWindow window.id
  | .templates chosen, .listDoubleClicked => applyTemplate window.id chosen
  | .completions editor completion chosen, .listDoubleClicked =>
    acceptCompletion window.id editor completion chosen
  | .completions editor completion chosen, .listReturn =>
    acceptCompletion window.id editor completion chosen
  | .completions _ _ _, .listEscape => closeWindow window.id
  | .completions _ _ _, .focusLost => closeWindow window.id
  | _, _ => return ()

/-- Handles events in a window one after the other. -/
def handleWindowEvents (window : Window) : List WindowEvent → Act Unit
  | [] => return ()
  | event :: rest => do
    handleWindow window event
    handleWindowEvents window rest

/-- Fills in the newest window and does something in it. -/
def useWindow (entry : WindowEntry) (events : List WindowEvent) : Act Unit := do
  match (← get).windows.getLast? with
  | none => throw .noWindow
  | some window =>
    let filled := { window with body := window.body.fill entry }
    modify fun studio => { studio with
      windows := studio.windows.map fun other => if other.id == window.id then filled else other }
    handleWindowEvents filled events

end Studio

end ScriptStudio
