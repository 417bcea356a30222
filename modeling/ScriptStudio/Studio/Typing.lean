import ScriptStudio.Buffer.Index
import ScriptStudio.Editor.Brackets
import ScriptStudio.Editor.Comment
import ScriptStudio.Studio.Tabs

/-!
# Events in the text

What an editor does after keys, clicks, changes and turns of the wheel. A click or a key at the very
beginning of the text fails when the brackets there are looked for, and what would come after that
is left out.

These are `on_key_release`, `on_click`, `on_mousewheel`, `on_modified`, `sync_scroll` and
`show_autocomplete` of `CodeEditor`, with `toggle_comment`, `go_to_line` and `_proxy_editor_event`.
-/

namespace ScriptStudio

/-- An event in the text of an editor. -/
inductive TextEvent where
  | keyReleased
  | clicked
  | changed
  | wheelTurned (delta : Int)
  | completionWanted
deriving DecidableEq

namespace Studio

/-- Brings the marks on brackets up to date. -/
def refreshBrackets (id : Nat) : Act Unit := do
  match (← get).editorOf? id with
  | none => return ()
  | some editor =>
    let (buffer, error) := Brackets.refresh editor.buffer
    changeBuffer id fun _ => buffer
    match error with
    | none => return ()
    | some .noCharacter => throw .noCharacter
    | some .endless => throw .endless

/-- What follows every key and every click. -/
def refreshBesides (id : Nat) : Act Unit := do
  closePopup id
  changeEditor id (·.renumber)
  refreshBrackets id

/-- What follows the release of a key. -/
def keyReleased (id : Nat) : Act Unit :=
  attempt (do
    refreshBesides id
    scheduleHighlight id)
  fun trouble => printLine ("Ошибка обработки нажатия клавиши: " ++ trouble.message)

/-- What follows a click. -/
def clicked (id : Nat) : Act Unit :=
  attempt (refreshBesides id)
  fun trouble => printLine ("Ошибка обработки клика: " ++ trouble.message)

/-- What follows a change of the text. -/
def changed (id : Nat) : Act Unit :=
  changeEditor id fun editor => { editor with isModified := true }

/-- Scrolls by a whole line for every notch of the wheel. -/
def wheelTurned (id : Nat) (delta : Int) : Act Unit := do
  changeEditor id fun editor => { editor with scrolled := editor.scrolled ++ [-(delta.tdiv 120)] }
  closePopup id

/-- Offers completions for the word before the cursor. A cursor out of view has no place for
them. -/
def offerCompletions (id : Nat) (cursorHidden : Bool) : Act Unit := do
  closePopup id
  match (← get).editorOf? id with
  | none => return ()
  | some editor =>
    match Completion.ofBuffer? editor.buffer with
    | none => return ()
    | some completion =>
      if cursorHidden then
        printLine ("Autocomplete error: " ++ Trouble.cursorHidden.message)
      else
        let window ← openWindow (.completions id completion completion.offers.head?)
        changeEditor id fun editor => { editor with popup := some window }

/-- Follows the scrolling of the text with the line numbers and the scroll bar. -/
def scrolled (id : Nat) (positions : List String) : Act Unit := do
  match positions with
  | [] =>
    printLine ("Ошибка синхронизации прокрутки: " ++ Trouble.noScrollPosition.message)
  | first :: _ =>
    changeEditor id fun editor => { editor with view := some first, bar := some positions }

/-- The number of the current editor. -/
def currentId : Act Nat := do
  match (← get).current? with
  | some (id, _) => return id
  | none => throw .noEditor

/-- Handles an event. -/
def handleEvent (event : TextEvent) (cursorHidden : Bool) : Act Unit := do
  let id ← currentId
  match event with
  | .keyReleased => keyReleased id
  | .clicked => clicked id
  | .changed => changed id
  | .wheelTurned delta => wheelTurned id delta
  | .completionWanted => offerCompletions id cursorHidden

/-- Tells that a text was typed. -/
def noteTyping (id : Nat) : Act Unit := do
  match (← get).reports with
  | .typed => changed id
  | .first => scheduleReport id

/-- Types a text at the cursor. -/
def typeText (text : String) : Act Unit := do
  let id ← currentId
  changeBuffer id fun buffer => buffer.insert buffer.cursor text.toList
  noteTyping id
  keyReleased id

/-- The position that is written down. -/
def resolve (id : Nat) (written : String) : Act Nat := do
  match (← get).editorOf? id with
  | none => throw .noEditor
  | some editor => orTrouble ((editor.buffer.resolve written).mapError fun _ => .noPlace)

/-- Puts the cursor somewhere and selects a text or nothing, as a click does. -/
def placeCursor (cursor : String) (selection : Option (String × String)) : Act Unit := do
  let id ← currentId
  let position ← resolve id cursor
  changeBuffer id (·.moveCursor position)
  match selection with
  | none => changeBuffer id (·.deselect)
  | some (first, last) =>
    let first ← resolve id first
    let last ← resolve id last
    changeBuffer id (·.select first last)
  clicked id

/-- Toggles comments in the current editor. -/
def toggleComment : Act Unit := do
  match (← get).current? with
  | some (id, _) => changeBuffer id Comment.toggle
  | none => return ()

/-- Asks for a line, goes there and selects it. -/
def goToLine : Act Unit := do
  match (← get).current? with
  | none => return ()
  | some (id, editor) =>
    let message := s!"Enter line number (1-{editor.buffer.lineCount}):"
    match ← onSite (Site.ask .number "Go to Line" (some message)) with
    | some (.int line) =>
      if line != 0 then
        let line := line.toNat
        changeBuffer id fun buffer =>
          (buffer.moveCursor (buffer.position line 0)).select (buffer.position line 0)
            (buffer.lineEnd line)
    | _ => return ()

/-- Passes an event on to the current editor. -/
def passOn (event : String) : Act Unit := do
  if (← get).current?.isSome then
    modify fun studio => { studio with events := studio.events.push ("<<" ++ event ++ ">>") }

/-- Offers completions in the current editor. -/
def offerCompletionsHere : Act Unit := do
  match (← get).current? with
  | some (id, _) => offerCompletions id false
  | none => return ()

end Studio

end ScriptStudio
