import Mathlib.Data.List.Induction
import Mathlib.Data.List.TakeWhile
import ScriptStudio.Proofs.StudioShifts

/-!
# Where a window for finding acts

A window for finding keeps the editor that was current when it was opened. Tabs can be selected,
opened and closed while it stands, and the commands for finding and replacing show it again instead
of a new one. So what is found and replaced in it is in the tab that was in view then, whatever tab
is in view now.

* `Studio.Finds`: a window for finding in an editor is open.
* `Session.viewAtOpening`: the tab that was selected when a window was opened.
* `Session.viewAtOpening_of_finds`: these are the same.
* `FindButton.press`: what a button of the window makes of a text.
* `Session.finding_inView_iff`: where the buttons act, and when this is the tab in view.
-/

namespace ScriptStudio

/-- The editor that the window is for finding in. -/
def WindowBody.finding? : WindowBody → Option Nat
  | .find editor _ _ => some editor
  | _ => none

theorem WindowBody.finding?_fill (body : WindowBody) (entry : WindowEntry) :
    (body.fill entry).finding? = body.finding? := by
  cases body with
  | settings theme =>
    unfold fill
    dsimp only
    split <;> rfl
  | templates | find | completions => rfl

theorem WindowBody.finding?_of_neutral {body : WindowBody} {theme : Datum}
    (h : body.Neutral theme) : body.finding? = none := by
  cases body with
  | find => exact h.elim
  | templates | settings | completions => rfl

theorem WindowBody.exists_find_of_isFind {body : WindowBody} (h : body.isFind) :
    ∃ editor replaces request, body = .find editor replaces request := by
  cases body with
  | find editor replaces request => exact ⟨editor, replaces, request, rfl⟩
  | templates | settings | completions => cases h

/-- The buttons of a window for finding that look for something. -/
inductive FindButton where
  | findNext
  | replace
  | replaceAll

namespace FindButton

/-- What is written on the button. -/
def label : FindButton → String
  | .findNext => "Find Next"
  | .replace => "Replace"
  | .replaceAll => "Replace All"

/-- The window has the button, for replacing or not. -/
def offered (replaces : Bool) : FindButton → Bool
  | .findNext => true
  | .replace => replaces
  | .replaceAll => replaces

/-- What the button makes of a text. -/
def press (request : FindRequest) (buffer : Buffer) (desk : Desk) : FindButton → Buffer
  | .findNext => (request.findNext buffer desk).1
  | .replace => (request.replace buffer desk).1
  | .replaceAll =>
    match request.replaceAll buffer desk with
    | .done replaced _ => replaced
    | .nothingSought => buffer
    | .endless => buffer

end FindButton

namespace Studio

/-! ## Windows -/

/-- A window with a number is open for finding in an editor. -/
def Finds (studio : Studio) (number editor : Nat) : Prop :=
  ∃ window ∈ studio.windows, window.id = number ∧ window.body.finding? = some editor

variable {allowed : Notable → Prop} {studio studio' : Studio} {number editor : Nat}

theorem Tweak.windows_eq (hstep : Tweak studio studio') :
    studio'.windows = studio.windows ∧ studio'.nextWindow = studio.nextWindow := by
  cases hstep with
  | besides hcore => exact ⟨congrArg Core.windows hcore, congrArg Core.nextWindow hcore⟩
  | label | mark | paint => exact ⟨rfl, rfl⟩

theorem Shift.finds (hstep : Shift allowed studio studio') (h : studio'.Finds number editor) :
    studio.Finds number editor ∨
      allowed .find ∧ ∃ found, studio.current? = some (editor, found) := by
  obtain ⟨window, hwindow, hid, hbody⟩ := h
  cases hstep with
  | edit hedit =>
    cases hedit with
    | tweak htweak =>
      rw [htweak.windows_eq.1] at hwindow
      exact .inl ⟨window, hwindow, hid, hbody⟩
    | change | select => exact .inl ⟨window, hwindow, hid, hbody⟩
    | openWindow hneutral =>
      rcases List.mem_append.mp hwindow with hwindow | hwindow
      · exact .inl ⟨window, hwindow, hid, hbody⟩
      · rw [List.mem_singleton.mp hwindow, WindowBody.finding?_of_neutral hneutral] at hbody
        cases hbody
    | closeWindow id => exact .inl ⟨window, List.mem_of_mem_filter hwindow, hid, hbody⟩
  | name | remember | add | drop | theme => exact .inl ⟨window, hwindow, hid, hbody⟩
  | fill hfilled entry =>
    obtain ⟨old, hold, rfl⟩ := List.mem_map.mp hwindow
    split at hid
    · rename_i hsame
      rw [if_pos hsame, WindowBody.finding?_fill] at hbody
      exact .inl ⟨_, hfilled, hid, hbody⟩
    · rename_i hother
      rw [if_neg hother] at hbody
      exact .inl ⟨old, hold, hid, hbody⟩
  | find hcurrent replaces hallowed =>
    rcases List.mem_append.mp hwindow with hwindow | hwindow
    · exact .inl ⟨window, hwindow, hid, hbody⟩
    · rw [List.mem_singleton.mp hwindow] at hbody
      cases hbody
      exact .inr ⟨hallowed, _, hcurrent⟩

/-- Numbers of windows are not used again. -/
def Numbers (studio : Studio) : Prop := ∀ window ∈ studio.windows, window.id < studio.nextWindow

theorem Numbers.lt_nextWindow (hnumbers : studio.Numbers) (h : studio.Finds number editor) :
    number < studio.nextWindow := by
  obtain ⟨window, hwindow, rfl, _⟩ := h
  exact hnumbers window hwindow

theorem numbers_opened {body : WindowBody} (h : studio.Numbers) :
    Numbers { studio with
      windows := studio.windows ++ [⟨studio.nextWindow, body⟩]
      nextWindow := studio.nextWindow + 1 } := by
  intro window hwindow
  rcases List.mem_append.mp hwindow with hwindow | hwindow
  · exact Nat.lt_succ_of_lt (h window hwindow)
  · rw [List.mem_singleton.mp hwindow]
    exact Nat.lt_succ_self _

theorem Shift.numbers (hstep : Shift allowed studio studio') (h : studio.Numbers) :
    studio'.Numbers := by
  cases hstep with
  | edit hedit =>
    cases hedit with
    | tweak htweak =>
      unfold Numbers
      rw [htweak.windows_eq.1, htweak.windows_eq.2]
      exact h
    | change | select => exact h
    | openWindow _ => exact numbers_opened h
    | closeWindow id => exact fun window hwindow => h window (List.mem_of_mem_filter hwindow)
  | name | remember | add | drop | theme => exact h
  | fill hfilled entry =>
    have hfresh := h _ hfilled
    intro window hwindow
    obtain ⟨old, hold, rfl⟩ := List.mem_map.mp hwindow
    split
    · exact hfresh
    · exact h old hold
  | find hcurrent replaces _ => exact numbers_opened h

theorem Shift.nextWindow_le (hstep : Shift allowed studio studio') :
    studio.nextWindow ≤ studio'.nextWindow := by
  cases hstep with
  | edit hedit =>
    cases hedit with
    | tweak htweak => exact Nat.le_of_eq htweak.windows_eq.2.symm
    | openWindow _ => exact Nat.le_succ _
    | change | select | closeWindow => exact Nat.le_refl _
  | find => exact Nat.le_succ _
  | name | remember | fill | add | drop | theme => exact Nat.le_refl _

theorem finds_of_chain (hfind : ¬ allowed .find)
    (hchain : Relation.ReflTransGen (Shift allowed) studio studio')
    (h : studio'.Finds number editor) : studio.Finds number editor := by
  induction hchain with
  | refl => exact h
  | tail _ hlast ih => exact ih ((hlast.finds h).resolve_right fun hopened => hfind hopened.1)

theorem finds_showFind {replaces : Bool}
    (h : (after (showFind replaces) studio).Finds number editor) :
    studio.Finds number editor ∨
      number = studio.nextWindow ∧ studio.notebook.selected = some editor := by
  rw [showFind, after_get_bind] at h
  split at h
  · split at h
    · exact .inl h
    · rename_i hcurrent
      obtain ⟨window, hwindow, rfl, hbody⟩ := h
      rcases List.mem_append.mp hwindow with hwindow | hwindow
      · exact .inl ⟨window, hwindow, rfl, hbody⟩
      · rw [List.mem_singleton.mp hwindow] at hbody ⊢
        cases hbody
        exact .inr ⟨rfl, (selected_and_mem_of_current? hcurrent).1⟩
  · exact .inl h

theorem finds_perform {command : Command}
    (h : (after (perform command) studio).Finds number editor) :
    studio.Finds number editor ∨
      number = studio.nextWindow ∧ studio.notebook.selected = some editor := by
  cases command with
  | find | replace => exact finds_showFind h
  | _ =>
    refine .inl (finds_of_chain ?_ (shifts_perform (fun _ hmay => hmay) studio) h)
    exact id

theorem finds_follow {deed : Deed} (h : (after (follow deed) studio).Finds number editor) :
    studio.Finds number editor ∨
      number = studio.nextWindow ∧ studio.notebook.selected = some editor := by
  have hfollows := follows_follow deed studio
  generalize after (follow deed) studio = studio' at h hfollows
  cases hfollows with
  | @command _ command given hcore =>
    have hwindows : given.windows = studio.windows := congrArg Core.windows hcore
    have hnext : given.nextWindow = studio.nextWindow := congrArg Core.nextWindow hcore
    have hnotebook : given.notebook = studio.notebook := congrArg Core.notebook hcore
    have hbefore := finds_perform h
    unfold Finds at hbefore ⊢
    rwa [hwindows, hnext, hnotebook] at hbefore
  | cross place =>
    have hchain : Relation.ReflTransGen (Shift (· ≠ .find)) studio
        (after (closeTabAt place) studio) :=
      shifts_closeTabAt Notable.noConfusion place studio
    exact .inl (finds_of_chain (fun hfind => hfind rfl) hchain h)
  | window entry events =>
    have hchain : Relation.ReflTransGen (Shift (· ≠ .find)) studio
        (after (useWindow entry events) studio) :=
      shifts_useWindow (fun _ _ _ _ => Notable.noConfusion) events
    exact .inl (finds_of_chain (fun hfind => hfind rfl) hchain h)
  | plain hchain => exact .inl (finds_of_chain Notable.noConfusion hchain h)

theorem finds_next (gesture : Gesture) (h : (studio.next gesture).Finds number editor) :
    studio.Finds number editor ∨
      number = studio.nextWindow ∧ studio.notebook.selected = some editor := by
  have hsettle : Through (Shift fun _ => False) settle := tweaks_settle
  rw [next_eq] at h
  have hbefore := finds_follow (finds_of_chain id (hsettle _) h)
  exact hbefore

theorem nextWindow_le_next (studio : Studio) (gesture : Gesture) :
    studio.nextWindow ≤ (studio.next gesture).nextWindow :=
  survives_chain (fun later => studio.nextWindow ≤ later.nextWindow)
    (fun _ _ hstep hle => Nat.le_trans hle hstep.nextWindow_le) (shifts_next_any studio gesture)
    (Nat.le_refl _)

/-! ## Editors -/

/-- The numbers of the editors, open or closed. -/
def known (studio : Studio) : List Nat :=
  studio.editors.map (·.1) ++ studio.closedEditors.map (·.1)

theorem known_withEditor (id : Nat) (change : Editor → Editor) (studio : Studio) :
    (studio.withEditor id change).known = studio.known := by
  rw [known, withEditor, map_fst_changeIn, map_fst_changeIn, known]

theorem Tweak.known_eq (hstep : Tweak studio studio') : studio'.known = studio.known := by
  cases hstep with
  | besides hcore =>
    exact congrArg
      (fun core : Core => core.editors.map (·.1) ++ core.closedEditors.map (·.1)) hcore
  | label => rfl
  | mark id _ => exact known_withEditor id _ studio
  | paint theme =>
    rw [known, painted, List.map_map]
    rfl

variable {id : Nat}

/-- No editor is ever lost. -/
theorem Shift.mem_known (hstep : Shift allowed studio studio') (h : id ∈ studio.known) :
    id ∈ studio'.known := by
  cases hstep with
  | edit hedit =>
    cases hedit with
    | tweak htweak => rwa [htweak.known_eq]
    | change other _ => rwa [known_withEditor]
    | select | openWindow | closeWindow => exact h
  | name other file => rwa [known_withEditor]
  | remember | fill | theme | find => exact h
  | add theme _ =>
    rw [known, withTab, List.map_append, List.append_assoc]
    rcases List.mem_append.mp h with h | h
    · exact List.mem_append_left _ h
    · exact List.mem_append_right _ (List.mem_append_right _ h)
  | drop other _ =>
    rw [known, withoutTab, List.map_append]
    rcases List.mem_append.mp h with h | h
    · obtain ⟨tab, htab, rfl⟩ := List.mem_map.mp h
      by_cases hother : tab.1 = other
      · have hclosed : tab ∈ studio.editors.filter (·.1 == other) :=
          List.mem_filter.mpr ⟨htab, beq_iff_eq.mpr hother⟩
        exact List.mem_append_right _ (List.mem_append_right _ (List.mem_map_of_mem hclosed))
      · have hopen : tab ∈ studio.editors.filter (·.1 != other) :=
          List.mem_filter.mpr ⟨htab, bne_iff_ne.mpr hother⟩
        exact List.mem_append_left _ (List.mem_map_of_mem hopen)
    · exact List.mem_append_right _ (List.mem_append_left _ h)

theorem editorOf?_of_known (h : id ∈ studio.known) : ∃ found, studio.editorOf? id = some found := by
  refine Option.ne_none_iff_exists'.mp fun hnone => ?_
  obtain ⟨hopen, hclosed⟩ : studio.editors.lookup id = none ∧
      studio.closedEditors.lookup id = none := by
    simpa [editorOf?] using hnone
  rcases List.mem_append.mp h with h | h
  · obtain ⟨tab, htab, rfl⟩ := List.mem_map.mp h
    simpa using List.lookup_eq_none_iff.mp hopen tab htab
  · obtain ⟨tab, htab, rfl⟩ := List.mem_map.mp h
    simpa using List.lookup_eq_none_iff.mp hclosed tab htab

theorem lookup_map (change : Nat → Editor → Editor) (id : Nat) (editors : List (Nat × Editor)) :
    (editors.map fun tab => (tab.1, change tab.1 tab.2)).lookup id =
      (editors.lookup id).map (change id) := by
  induction editors with
  | nil => rfl
  | cons tab rest ih =>
    rw [List.map_cons, List.lookup_cons, List.lookup_cons]
    cases hid : id == tab.1 with
    | true =>
      obtain rfl := eq_of_beq hid
      rfl
    | false => exact ih

theorem current?_withEditor {found : Editor} (h : studio.current? = some (id, found))
    (change : Editor → Editor) :
    (studio.withEditor id change).current? = some (id, change found) := by
  have hselected := (selected_and_mem_of_current? h).1
  rw [current?, hselected, Option.bind_some] at h
  obtain ⟨other, hfound, hsame⟩ := Option.map_eq_some_iff.mp h
  cases hsame
  have hlookup := lookup_map (fun other editor => if other = id then change editor else editor) id
    studio.editors
  rw [hfound, Option.map_some, if_pos rfl] at hlookup
  rw [current?, withEditor]
  dsimp only
  rw [hselected, Option.bind_some]
  exact Option.map_eq_some_iff.mpr ⟨_, hlookup, rfl⟩

theorem editorOf?_withEditor (id : Nat) (change : Editor → Editor) (studio : Studio) (other : Nat) :
    (studio.withEditor id change).editorOf? other =
      (studio.editorOf? other).map fun editor => if other = id then change editor else editor := by
  have hlookup : ∀ editors, (changeIn id change editors).lookup other =
      (editors.lookup other).map fun editor => if other = id then change editor else editor :=
    lookup_map (fun other editor => if other = id then change editor else editor) other
  rw [editorOf?, withEditor, hlookup, hlookup, editorOf?]
  cases studio.editors.lookup other <;> rfl

/-! ## What is found and replaced -/

/-- What the user works on in the editor of a number, open or closed. -/
def workAt (studio : Studio) (id : Nat) : Option Work :=
  (studio.editorOf? id).map Editor.work

theorem workAt_withEditor {other : Nat} {change : Editor → Editor}
    (h : other = id → ∀ editor, (change editor).work = editor.work) :
    (studio.withEditor id change).workAt other = studio.workAt other := by
  rw [workAt, editorOf?_withEditor, Option.map_map, workAt]
  congr 1
  funext editor
  dsimp only [Function.comp]
  split
  · exact h ‹_› editor
  · rfl

theorem Tweak.workAt_eq (hstep : Tweak studio studio') (id : Nat) :
    studio'.workAt id = studio.workAt id := by
  cases hstep with
  | besides hcore =>
    exact congrArg (fun core : Core =>
      (core.editors.lookup id <|> core.closedEditors.lookup id).map Editor.work) hcore
  | label => rfl
  | mark other h => exact workAt_withEditor fun _ => h
  | paint theme =>
    have hlookup := lookup_map (fun _ editor => { editor with theme }) id studio.editors
    rw [workAt, editorOf?, painted, workAt, editorOf?]
    dsimp only
    rw [hlookup]
    cases studio.editors.lookup id <;> rfl

/-- What finding in an editor can do. -/
inductive Search (editor : Nat) (studio : Studio) : Studio → Prop where
  | tweak {studio' : Studio} (h : Tweak studio studio') : Search editor studio studio'
  | change (change : Editor → Editor) : Search editor studio (studio.withEditor editor change)
  | windows (windows : List Window) : Search editor studio { studio with windows := windows }

instance (editor : Nat) : Tweaks (Search editor) := ⟨.tweak⟩

theorem Search.workAt_eq (hstep : Search editor studio studio') (hid : id ≠ editor) :
    studio'.workAt id = studio.workAt id := by
  cases hstep with
  | tweak htweak => exact htweak.workAt_eq id
  | change change => exact workAt_withEditor fun heq => absurd heq hid
  | windows windows => rfl

section Window

variable {window : Window} (hwindow : window.body.finding? = some editor)
include hwindow

theorem finding?_of_body {body : WindowBody} (hbody : window.body = body) :
    body.finding? = some editor := by
  rw [← hbody, hwindow]

theorem searches_pressButton (label : String) :
    Through (Search editor) (pressButton window label) := by
  have hchange : ∀ change, Through (Search editor) (changeBuffer editor change) := fun change =>
    through_modify fun _ => .change _
  have hclose : Through (Search editor) (closeWindow window.id) :=
    through_modify fun _ => .windows _
  unfold pressButton
  split
  · cases finding?_of_body hwindow ‹_›
  · cases finding?_of_body hwindow ‹_›
  · cases finding?_of_body hwindow ‹_›
    exact through_searchOnce hchange _
  · cases finding?_of_body hwindow ‹_›
    exact through_searchOnce hchange _
  · cases finding?_of_body hwindow ‹_›
    exact through_replaceAll hchange hclose _
  · exact hclose
  · exact through_pure ()

theorem searches_handleWindow (event : WindowEvent) :
    Through (Search editor) (handleWindow window event) := by
  have hclose : Through (Search editor) (closeWindow window.id) :=
    through_modify fun _ => .windows _
  unfold handleWindow
  split
  · exact searches_pressButton hwindow _
  · exact hclose
  · cases finding?_of_body hwindow ‹_›
  · cases finding?_of_body hwindow ‹_›
  · cases finding?_of_body hwindow ‹_›
  · exact hclose
  · exact hclose
  · exact through_pure ()

theorem searches_handleWindowEvents (events : List WindowEvent) :
    Through (Search editor) (handleWindowEvents window events) := by
  induction events with
  | nil => exact through_pure ()
  | cons event rest ih => exact (searches_handleWindow hwindow event).bind fun _ => ih

end Window

theorem workAt_next {window : Window} (hlast : studio.windows.getLast? = some window)
    (hwindow : window.body.finding? = some editor) {gesture : Gesture} {entry : WindowEntry}
    {events : List WindowEvent} (hdeed : gesture.deed = .window entry events) (hid : id ≠ editor) :
    (studio.next gesture).workAt id = studio.workAt id := by
  have hfilled : (window.body.fill entry).finding? = some editor := by
    rw [WindowBody.finding?_fill, hwindow]
  have hready : (studio.withReplies gesture.replies).windows.getLast? = some window := hlast
  have hchain : Relation.ReflTransGen (Search editor) studio (studio.next gesture) := by
    rw [next_eq, hdeed, follow, useWindow_of_getLast? hready]
    have hdesk : Search editor studio (studio.withReplies gesture.replies) :=
      .tweak (.besides rfl)
    exact .trans (.head hdesk (.head (.windows _) (searches_handleWindowEvents hfilled events _)))
      (tweaks_settle _)
  exact survives_chain (fun later => later.workAt id = studio.workAt id)
    (fun _ _ hstep hsame => (hstep.workAt_eq hid).trans hsame) hchain rfl

section Press

variable {found : Editor} (hfound : studio.editorOf? editor = some found)
include hfound

theorem workAt_changed (buffer : Buffer) :
    (studio.withEditor editor fun found => { found with buffer := buffer }).workAt editor =
      some (Editor.work { found with buffer := buffer }) := by
  rw [workAt, editorOf?_withEditor, hfound]
  simp only [Option.map_some, if_true]

theorem workAt_searchOnce (search : Buffer → Desk → Buffer × Desk) :
    (after (searchOnce editor search) studio).workAt editor =
      some (Editor.work { found with buffer := (search found.buffer studio.site.desk).1 }) := by
  rw [searchOnce, after_get_bind]
  simp only [hfound]
  exact workAt_changed hfound _

theorem workAt_replaceAll (window : Nat) (request : FindRequest) :
    (after (replaceAll window editor request) studio).workAt editor =
      some (Editor.work { found with
        buffer := FindButton.replaceAll.press request found.buffer studio.site.desk }) := by
  rw [replaceAll, after_get_bind]
  simp only [hfound]
  rw [after_get_bind]
  unfold FindButton.press
  dsimp only
  cases request.replaceAll found.buffer studio.site.desk with
  | done buffer desk => exact workAt_changed hfound _
  | nothingSought | endless => exact congrArg (Option.map Editor.work) hfound

theorem workAt_pressButton {window : Window} {replaces : Bool} {request : FindRequest}
    (hbody : window.body = .find editor replaces request) {button : FindButton}
    (hoffered : button.offered replaces) :
    (after (pressButton window button.label) studio).workAt editor =
      some (Editor.work { found with
        buffer := button.press request found.buffer studio.site.desk }) := by
  cases button with
  | findNext =>
    simp only [FindButton.label, pressButton, hbody]
    exact workAt_searchOnce hfound _
  | replace =>
    cases hoffered
    simp only [FindButton.label, pressButton, hbody]
    exact workAt_searchOnce hfound _
  | replaceAll =>
    cases hoffered
    simp only [FindButton.label, pressButton, hbody]
    exact workAt_replaceAll hfound _ _

theorem workAt_next_button {window : Window} (hlast : studio.windows.getLast? = some window)
    {gesture : Gesture} {entry : WindowEntry} {button : FindButton}
    (hdeed : gesture.deed = .window entry [.button button.label]) {replaces : Bool}
    {request : FindRequest} (hbody : window.body.fill entry = .find editor replaces request)
    (hoffered : button.offered replaces) :
    (studio.next gesture).workAt editor =
      some (Editor.work { found with
        buffer := button.press request found.buffer { replies := gesture.replies } }) := by
  have hready : (studio.withReplies gesture.replies).windows.getLast? = some window := hlast
  have hsettle : Leaves (·.workAt editor) settle :=
    tweaks_settle.leaves fun _ _ hstep => Tweak.workAt_eq hstep editor
  rw [next_eq, hdeed, follow, useWindow_of_getLast? hready]
  refine (hsettle _).trans ?_
  rw [handleWindowEvents, handleWindow]
  have hrest : ∀ a : Unit, Leaves (·.workAt editor)
      (handleWindowEvents { window with body := window.body.fill entry } []) := fun _ _ => rfl
  refine (part_bind _ hrest _).trans (workAt_pressButton ?_ hbody hoffered)
  exact hfound

end Press

end Studio

/-! ## The tab in view -/

namespace Session

open Studio

/-- The tab that was selected when a window was opened, in the last state in which its number was
not given away. -/
def viewAtOpening (session : Session) (number : Nat) : Option Nat :=
  (session.states.takeWhile (·.nextWindow ≤ number)).getLast?.bind (·.notebook.selected)

/-- The session with one more gesture. -/
def followedBy (session : Session) (gesture : Gesture) : Session :=
  { session with gestures := session.gestures ++ [gesture] }

theorem studio_followedBy (session : Session) (gesture : Gesture) :
    (session.followedBy gesture).studio = session.studio.next gesture :=
  List.foldl_concat _ _ _ _

theorem states_followedBy (session : Session) (gesture : Gesture) :
    (session.followedBy gesture).states = session.states ++ [session.studio.next gesture] := by
  rw [states, followedBy, List.scanl_append, List.scanl_singleton]
  rfl

/-- Sessions grow by one gesture after the other. -/
theorem induction_followedBy {holds : Session → Prop}
    (hstart : ∀ session : Session, session.gestures = [] → holds session)
    (hstep : ∀ session gesture, holds session → holds (session.followedBy gesture))
    (session : Session) : holds session := by
  obtain ⟨styles, disk, replies, isDemo, reports, gestures⟩ := session
  induction gestures using List.reverseRecOn with
  | nil => exact hstart _ rfl
  | append_singleton gestures gesture ih => exact hstep _ gesture ih

theorem numbers_states (session : Session) : ∀ studio ∈ session.states, studio.Numbers :=
  survives_states (fun _ _ => Shift.numbers) (by simp [Numbers, blank, onDisk])

/-- The editor that a window is for finding in is not lost. -/
theorem known_of_finds (session : Session) : ∀ studio ∈ session.states, ∀ number editor,
    studio.Finds number editor → editor ∈ studio.known := by
  refine survives_states (fun studio studio' hstep h number editor hfinds => ?_) ?_
  · rcases hstep.finds hfinds with hold | ⟨_, found, hcurrent⟩
    · exact hstep.mem_known (h number editor hold)
    · refine hstep.mem_known (List.mem_append_left _ ?_)
      exact List.mem_map_of_mem (selected_and_mem_of_current? hcurrent).2
  · rintro number editor ⟨window, hwindow, _⟩
    cases hwindow

theorem nextWindow_le_of_mem_states (session : Session) :
    ∀ studio ∈ session.states, studio.nextWindow ≤ session.studio.nextWindow := by
  induction session using induction_followedBy with
  | hstart session hnone => simp [states, Session.studio, hnone]
  | hstep session gesture ih =>
    have hle := nextWindow_le_next session.studio gesture
    rw [states_followedBy, studio_followedBy]
    intro studio hstudio
    rcases List.mem_append.mp hstudio with hstudio | hstudio
    · exact Nat.le_trans (ih studio hstudio) hle
    · exact Nat.le_of_eq (congrArg _ (List.mem_singleton.mp hstudio))

theorem viewAtOpening_followedBy_of_lt {session : Session} {number : Nat} (gesture : Gesture)
    (h : number < session.studio.nextWindow) :
    (session.followedBy gesture).viewAtOpening number = session.viewAtOpening number := by
  have hstops : (session.states.takeWhile (·.nextWindow ≤ number)).length ≠
      session.states.length := by
    intro hlength
    have hall := List.takeWhile_eq_self_iff.mp
      (List.IsPrefix.eq_of_length (List.takeWhile_prefix _) hlength)
    have hlast := hall session.studio session.studio_mem_states
    exact Nat.not_le_of_lt h (of_decide_eq_true hlast)
  rw [viewAtOpening, states_followedBy, List.takeWhile_append, if_neg hstops]
  rfl

theorem viewAtOpening_followedBy_opened {session : Session} {gesture : Gesture}
    (h : session.studio.nextWindow < (session.studio.next gesture).nextWindow) :
    (session.followedBy gesture).viewAtOpening session.studio.nextWindow =
      session.studio.notebook.selected := by
  have hbefore : ∀ studio ∈ session.states,
      decide (studio.nextWindow ≤ session.studio.nextWindow) = true := fun studio hstudio =>
    decide_eq_true (session.nextWindow_le_of_mem_states studio hstudio)
  have hafter : [session.studio.next gesture].takeWhile
      (·.nextWindow ≤ session.studio.nextWindow) = [] :=
    List.takeWhile_cons_of_neg fun hle => Nat.not_le_of_lt h (of_decide_eq_true hle)
  have hlast : session.states.getLast? = some session.studio := List.getLast?_scanl
  rw [viewAtOpening, states_followedBy, List.takeWhile_append_of_pos hbefore, hafter,
    List.append_nil, hlast]
  rfl

/-- A window for finding is for the tab that was selected when it was opened. -/
theorem viewAtOpening_of_finds (session : Session) {number editor : Nat}
    (h : session.studio.Finds number editor) : session.viewAtOpening number = some editor := by
  induction session using induction_followedBy with
  | hstart session hnone =>
    have hstarted : Relation.ReflTransGen (Shift (· ≠ .find)) session.blank session.first :=
      shifts_first Notable.noConfusion fun _ _ => Notable.noConfusion
    rw [Session.studio, hnone] at h
    obtain ⟨window, hwindow, _⟩ := finds_of_chain (fun hfind => hfind rfl) hstarted h
    cases hwindow
  | hstep session gesture ih =>
    rw [studio_followedBy] at h
    -- The window was there before the last gesture, or this gesture opened it.
    rcases finds_next gesture h with hold | ⟨rfl, hselected⟩
    · have hnumbers := session.numbers_states _ session.studio_mem_states
      rw [viewAtOpening_followedBy_of_lt gesture (hnumbers.lt_nextWindow hold)]
      exact ih hold
    · have hnumbers := (session.followedBy gesture).numbers_states _ (studio_mem_states _)
      rw [studio_followedBy] at hnumbers
      rw [viewAtOpening_followedBy_opened (hnumbers.lt_nextWindow h), hselected]

/-- The gesture changes what the user works on in an editor. -/
def Touches (session : Session) (gesture : Gesture) (id : Nat) : Prop :=
  (session.studio.next gesture).workAt id ≠ session.studio.workAt id

/-- A window for finding is for the editor of the tab that was in view when it was opened, which is
not lost. Whatever is done in the window, no other editor is touched, and a button works on the text
of this one. So all is done in the tab in view exactly if nothing is touched or that tab is in view
again. -/
theorem finding_inView_iff (session : Session) {gesture : Gesture} {entry : WindowEntry}
    {events : List WindowEvent} (hdeed : gesture.deed = .window entry events) {window : Window}
    (hlast : session.studio.windows.getLast? = some window) (hfind : window.body.isFind) :
    ∃ editor replaces request found, window.body.fill entry = .find editor replaces request ∧
      session.viewAtOpening window.id = some editor ∧
      session.studio.editorOf? editor = some found ∧
      (∀ id, session.Touches gesture id → id = editor) ∧
      (∀ button : FindButton, button.offered replaces → events = [.button button.label] →
        (session.studio.next gesture).workAt editor = some (Editor.work { found with
          buffer := button.press request found.buffer { replies := gesture.replies } })) ∧
      ((∀ id, session.Touches gesture id → session.studio.notebook.selected = some id) ↔
        (∀ id, ¬ session.Touches gesture id) ∨
          session.studio.notebook.selected = some editor) := by
  obtain ⟨editor, replaces, request, hbody⟩ := WindowBody.exists_find_of_isFind hfind
  have hwindow : window.body.finding? = some editor := by
    rw [hbody]
    rfl
  have hfinds : session.studio.Finds window.id editor :=
    ⟨window, List.mem_of_getLast? hlast, rfl, hwindow⟩
  obtain ⟨found, hfound⟩ :=
    editorOf?_of_known (session.known_of_finds _ session.studio_mem_states _ _ hfinds)
  obtain ⟨request', hfilled⟩ :
      ∃ request', window.body.fill entry = .find editor replaces request' := by
    rw [hbody]
    exact ⟨_, rfl⟩
  have htouched : ∀ id, session.Touches gesture id → id = editor := fun id htouches =>
    not_not.mp fun hid => htouches (workAt_next hlast hwindow hdeed hid)
  refine ⟨editor, replaces, request', found, hfilled, session.viewAtOpening_of_finds hfinds, hfound,
    htouched, fun button hoffered hevents => ?_, fun hinView => ?_, ?_⟩
  · rw [hevents] at hdeed
    exact workAt_next_button hfound hlast hdeed hfilled hoffered
  · by_cases hany : ∃ id, session.Touches gesture id
    · obtain ⟨id, htouches⟩ := hany
      rw [hinView id htouches, htouched id htouches]
      exact .inr rfl
    · exact .inl (not_exists.mp hany)
  · rintro (hnone | hsame) id htouches
    · exact absurd htouches (hnone id)
    · rw [hsame, htouched id htouches]

/-- A letter is typed into the second tab, a window for replacing is opened there, and then a third
tab is opened. -/
def replacingBehind : Session where
  styles := ["clam"]
  disk := ⟨[]⟩
  replies := []
  isDemo := false
  gestures := [⟨.key "<Control-n>", []⟩, ⟨.type "x", []⟩, ⟨.key "<Control-h>", []⟩,
    ⟨.key "<Control-n>", []⟩]

/-- The letter is replaced. -/
def replacing : Gesture := ⟨.window { texts := ["x", "y"] } [.button "Replace All"], []⟩

theorem finding_inView_replacingBehind :
    ∃ window, replacingBehind.studio.windows.getLast? = some window ∧ window.body.isFind ∧
      ∃ editor replaces request found,
        window.body.fill { texts := ["x", "y"] } = .find editor replaces request ∧
        replacingBehind.viewAtOpening window.id = some editor ∧
        replacingBehind.studio.editorOf? editor = some found ∧
        (∀ id, replacingBehind.Touches replacing id → id = editor) ∧
        (∀ button : FindButton, button.offered replaces →
          [.button "Replace All"] = [WindowEvent.button button.label] →
          (replacingBehind.studio.next replacing).workAt editor = some (Editor.work { found with
            buffer := button.press request found.buffer { replies := [] } })) ∧
        ((∀ id, replacingBehind.Touches replacing id →
            replacingBehind.studio.notebook.selected = some id) ↔
          (∀ id, ¬ replacingBehind.Touches replacing id) ∨
            replacingBehind.studio.notebook.selected = some editor) := by
  have hlast : replacingBehind.studio.windows.getLast?.map (fun window => window.body.isFind) =
      some true := by
    decide +kernel
  obtain ⟨window, hwindow, hfind⟩ := Option.map_eq_some_iff.mp hlast
  exact ⟨window, hwindow, hfind, finding_inView_iff replacingBehind rfl hwindow hfind⟩

/-- The text of the second tab is changed while the third is in view. -/
theorem not_inView_replacingBehind :
    ¬ ∀ id, replacingBehind.Touches replacing id →
      replacingBehind.studio.notebook.selected = some id := by
  have htouches : (replacingBehind.studio.next replacing).workAt 2 ≠
      replacingBehind.studio.workAt 2 := by
    decide +kernel
  have hselected : replacingBehind.studio.notebook.selected ≠ some 2 := by
    decide +kernel
  exact fun hinView => hselected (hinView 2 htouches)

end Session

end ScriptStudio
