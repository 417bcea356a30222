import ScriptStudio.Proofs.StudioSession

/-!
# What deeds change

Beyond edits, an action may give a tab a file, remember files and folders, and fill in a window.
Four changes are notable: a new tab, the end of a tab, another theme, and a window for finding. A
shift is an elementary change of any of these kinds, of the notable ones only those that are
allowed.

* `Studio.Shift`: the elementary changes.
* `Command.MayDo`: the notable changes that a command can bring.
* `Studio.Follows`: what can come of a deed.
* `Studio.shifts_next`: every deed is a chain of shifts.
* `Session.survives_states`: what every shift keeps holds in every state of a session.
-/

namespace ScriptStudio

/-- A change that tabs, the theme or windows for finding show. -/
inductive Notable where
  | add
  | drop
  | theme (theme : Datum)
  | find

namespace Studio

/-- An elementary change of the studio. -/
inductive Shift (allowed : Notable → Prop) (studio : Studio) : Studio → Prop where
  | edit {studio' : Studio} (h : Edit studio studio') : Shift allowed studio studio'
  | name (id : Nat) (file : FileName) :
    Shift allowed studio (studio.withEditor id fun editor =>
      { editor with file := some file, isModified := false })
  | remember (recentFiles lastFolder : Datum) (recentMenu : List RecentItem) :
    Shift allowed studio { studio with
      recentFiles := recentFiles, lastFolder := lastFolder, recentMenu := recentMenu }
  | fill {window : Window} (hwindow : window ∈ studio.windows) (entry : WindowEntry) :
    Shift allowed studio { studio with
      windows := studio.windows.map fun other =>
        if other.id == window.id then { window with body := window.body.fill entry } else other }
  | add (theme : Theme) (hallowed : allowed .add) : Shift allowed studio (studio.withTab theme)
  | drop (id : Nat) (hallowed : allowed .drop) : Shift allowed studio (studio.withoutTab id)
  | theme (theme : Datum) (hallowed : allowed (.theme theme)) :
    Shift allowed studio { studio with theme := theme }
  | find {id : Nat} {editor : Editor} (hcurrent : studio.current? = some (id, editor))
    (replaces : Bool) (hallowed : allowed .find) :
    Shift allowed studio { studio with
      windows := studio.windows ++ [⟨studio.nextWindow, .find id replaces {}⟩]
      nextWindow := studio.nextWindow + 1 }

instance (allowed : Notable → Prop) : Edits (Shift allowed) := ⟨.edit⟩

variable {allowed : Notable → Prop}

/-! ## Saving -/

theorem shifts_changeEditor_file (id : Nat) (file : FileName) :
    Through (Shift allowed) (changeEditor id fun editor =>
      { editor with file := some file, isModified := false }) :=
  through_modify fun _ => .name id file

theorem shifts_saveAs : Through (Shift allowed) saveAs := by
  refine Through.attempt ?_ fun trouble =>
    (tweaks_printLine _).bind fun _ => tweaks_reportUnsaved trouble
  refine through_get.bind fun studio => ?_
  split
  · exact through_pure false
  · refine (tweaks_askPath _ _).bind fun reply => ?_
    split
    · exact through_pure false
    · exact (tweaks_writeEditor _ _).bind fun _ => (shifts_changeEditor_file _ _).bind fun _ =>
        tweaks_updateTitle.bind fun _ => (tweaks_setStatus _).bind fun _ => through_pure true

theorem shifts_save : Through (Shift allowed) save := by
  refine Through.attempt ?_ tweaks_reportUnsaved
  refine through_get.bind fun studio => ?_
  split
  · exact through_pure false
  · split
    · exact shifts_saveAs
    · refine (tweaks_writeEditor _ _).bind fun _ => ?_
      exact Through.bind (tweaks_changeEditor _ fun _ => rfl) fun _ =>
        tweaks_updateTitle.bind fun _ => (tweaks_setStatus _).bind fun _ => through_pure true

theorem shifts_settleChanges (id : Nat) : Through (Shift allowed) (settleChanges id) := by
  refine through_get.bind fun studio => ?_
  split
  · exact through_pure true
  · split
    · exact through_pure true
    · refine (edits_selectTab id).bind fun _ => (tweaks_onSite _).bind fun reply => ?_
      split
      · exact shifts_save
      · exact through_pure true
      · exact through_pure false

theorem shifts_settleAll (ids : List Nat) : Through (Shift allowed) (settleAll ids) := by
  induction ids with
  | nil => exact through_pure true
  | cons id rest ih =>
    refine (shifts_settleChanges id).bind fun goOn => ?_
    split
    · exact ih
    · exact through_pure false

theorem shifts_close : Through (Shift allowed) close := by
  refine through_get.bind fun studio => (shifts_settleAll _).bind fun goOn => ?_
  split
  · exact tweaks_saveSettings.bind fun _ => tweaks_modify fun _ => rfl
  · exact through_pure ()

/-! ## New tabs -/

theorem shifts_refreshRecentMenu : Through (Shift allowed) refreshRecentMenu := by
  refine through_get.bind fun studio => ?_
  split
  refine Through.bind (through_modify fun studio => .remember _ _ _) fun _ => ?_
  split
  · exact tweaks_printLine _
  · exact through_pure ()

theorem shifts_readInto (id : Nat) (name : FileName) :
    Through (Shift allowed) (readInto id name) := by
  refine through_get.bind fun studio => (through_orTrouble _).bind fun text => ?_
  refine (edits_setText id text _).bind fun _ => (shifts_changeEditor_file id name).bind fun _ => ?_
  have hremember : Through (Shift allowed) (rememberFile name) :=
    through_get.bind fun studio => (through_orTrouble _).bind fun recent =>
      through_modify fun studio => .remember _ _ _
  exact hremember.bind fun _ => shifts_refreshRecentMenu.bind fun _ => tweaks_saveSettings

section Add

variable (hadd : allowed .add)
include hadd

theorem shifts_addTab (theme : Theme) : Through (Shift allowed) (addTab theme) := by
  intro studio
  obtain ⟨tasks, hend⟩ := addTab_eq theme studio
  rw [after_of_ok hend]
  exact .tail (.single (.add theme hadd)) (Tweaks.of_tweak (.besides rfl))

theorem shifts_newTab {fill : Nat → Act Unit} (hfill : ∀ id, Through (Shift allowed) (fill id)) :
    Through (Shift allowed) (newTab fill) := by
  refine Through.attempt ?_ fun trouble =>
    (tweaks_printLine _).bind fun _ => tweaks_tell _ _ _
  exact through_get.bind fun studio => (through_orTrouble _).bind fun theme =>
    (shifts_addTab hadd theme).bind fun id => (hfill id).bind fun _ => tweaks_updateTitle

theorem shifts_newWelcomeTab : Through (Shift allowed) newWelcomeTab :=
  shifts_newTab hadd fun id => edits_setText id _ _

theorem shifts_newFile : Through (Shift allowed) newFile :=
  (shifts_newTab hadd fun _ => through_pure ()).bind fun _ => tweaks_setStatus _

theorem shifts_openFile (name : FileName) : Through (Shift allowed) (openFile name) := by
  refine through_get.bind fun studio => ?_
  split
  · exact edits_selectTab _
  · exact (shifts_newTab hadd fun id => shifts_readInto id name).bind fun _ => tweaks_setStatus _

theorem shifts_askAndOpen : Through (Shift allowed) askAndOpen := by
  refine (tweaks_askPath _ _).bind fun reply => ?_
  split
  · exact shifts_openFile hadd _
  · exact through_pure ()

theorem shifts_createFile : Through (Shift allowed) createFile := by
  refine (tweaks_onSite _).bind fun made => ?_
  split
  · exact (shifts_openFile hadd _).bind fun _ => tweaks_onSite _
  · exact through_pure ()

theorem shifts_openRow (path : String) : Through (Shift allowed) (openRow path) := by
  refine (tweaks_onSite _).bind fun found => ?_
  split
  · exact shifts_openFile hadd _
  · exact through_pure ()

end Add

theorem shifts_openFolder : Through (Shift allowed) openFolder := by
  refine (tweaks_askPath _ _).bind fun reply => ?_
  split
  · refine (tweaks_onSite _).bind fun _ => ?_
    exact Through.bind (through_modify fun studio => .remember _ _ _) fun _ => tweaks_setStatus _
  · exact through_pure ()

/-! ## Closing tabs -/

section Drop

variable (hdrop : allowed .drop)
include hdrop

theorem shifts_dropTab (id : Nat) : Through (Shift allowed) (dropTab id) := by
  intro studio
  obtain ⟨tasks, hend⟩ := dropTab_eq id studio
  rw [after_of_ok hend]
  exact .tail (.single (.drop id hdrop)) (Tweaks.of_tweak (.besides rfl))

theorem shifts_dropTabs (ids : List Nat) : Through (Shift allowed) (dropTabs ids) := by
  induction ids with
  | nil => exact through_pure ()
  | cons id rest ih => exact (shifts_dropTab hdrop id).bind fun _ => ih

theorem shifts_closeTabAt (place : Nat) : Through (Shift allowed) (closeTabAt place) := by
  refine through_get.bind fun studio => ?_
  split
  · exact through_pure ()
  · refine (shifts_settleChanges _).bind fun goOn => ?_
    split
    · exact (shifts_dropTab hdrop _).bind fun _ => tweaks_updateTitle
    · exact through_pure ()

theorem shifts_closeTab (hadd : allowed .add) : Through (Shift allowed) closeTab := by
  refine through_get.bind fun studio => ?_
  split
  · exact through_pure ()
  · refine (shifts_settleChanges _).bind fun goOn => ?_
    split
    · refine (shifts_dropTab hdrop _).bind fun _ => tweaks_updateTitle.bind fun _ => ?_
      refine through_get.bind fun studio => ?_
      split
      · exact shifts_newWelcomeTab hadd
      · exact through_pure ()
    · exact through_pure ()

theorem shifts_closeAllTabs (hadd : allowed .add) : Through (Shift allowed) closeAllTabs := by
  refine through_get.bind fun studio => (shifts_settleAll _).bind fun goOn => ?_
  split
  · exact through_get.bind fun studio => (shifts_dropTabs hdrop _).bind fun _ =>
      tweaks_updateTitle.bind fun _ => shifts_newWelcomeTab hadd
  · exact through_pure ()

end Drop

/-! ## Themes and windows -/

theorem shifts_setTheme {theme : Datum} (h : allowed (.theme theme)) :
    Through (Shift allowed) (setTheme theme) :=
  Through.bind (through_modify fun _ => .theme theme h) fun _ => tweaks_applyTheme

theorem shifts_switchTheme {theme : Theme} (h : allowed (.theme (.text theme.name))) :
    Through (Shift allowed) (switchTheme theme) := by
  refine Through.bind (tweaks_modify ?_) fun _ => ?_
  · exact fun _ => rfl
  refine through_get.bind fun studio => ?_
  split
  · exact (shifts_setTheme h).bind fun _ => tweaks_printLine _
  · exact through_pure ()

theorem shifts_applySettings (window : Nat) {theme : Datum} (h : allowed (.theme theme)) :
    Through (Shift allowed) (applySettings window theme) := by
  have hchoose : Through (Shift allowed) (chooseTheme theme) := by
    unfold chooseTheme
    split
    · refine through_get.bind fun studio => ?_
      split
      · refine Through.bind (tweaks_modify ?_) fun _ => shifts_setTheme h
        exact fun _ => rfl
      · exact through_pure ()
    · exact through_pure ()
  exact hchoose.bind fun _ => tweaks_saveSettings.bind fun _ =>
    (edits_closeWindow window).bind fun _ => tweaks_tell _ _ _

section Window

variable {window : Window}
  (htheme : ∀ theme, window.body = .settings theme → allowed (.theme theme))
include htheme

theorem shifts_pressButton (label : String) :
    Through (Shift allowed) (pressButton window label) := by
  unfold pressButton
  split
  · exact edits_applyTemplate _ _
  · exact shifts_applySettings _ (htheme _ ‹_›)
  · exact edits_searchOnce _ _
  · exact edits_searchOnce _ _
  · exact edits_replaceAll _ _ _
  · exact edits_closeWindow _
  · exact through_pure ()

theorem shifts_handleWindow (event : WindowEvent) :
    Through (Shift allowed) (handleWindow window event) := by
  unfold handleWindow
  split
  · exact shifts_pressButton htheme _
  · exact edits_closeWindow _
  · exact edits_applyTemplate _ _
  · exact edits_acceptCompletion _ _ _ _
  · exact edits_acceptCompletion _ _ _ _
  · exact edits_closeWindow _
  · exact edits_closeWindow _
  · exact through_pure ()

theorem shifts_handleWindowEvents (events : List WindowEvent) :
    Through (Shift allowed) (handleWindowEvents window events) := by
  induction events with
  | nil => exact through_pure ()
  | cons event rest ih => exact (shifts_handleWindow htheme event).bind fun _ => ih

end Window

theorem useWindow_of_getLast? {studio : Studio} {window : Window}
    (h : studio.windows.getLast? = some window) (entry : WindowEntry) (events : List WindowEvent) :
    after (useWindow entry events) studio =
      after (handleWindowEvents { window with body := window.body.fill entry } events)
        { studio with
          windows := studio.windows.map fun other =>
            if other.id == window.id then { window with body := window.body.fill entry }
            else other } := by
  rw [useWindow, after_get_bind]
  simp only [h]
  rw [after_modify_bind]

theorem shifts_useWindow {studio : Studio} {entry : WindowEntry}
    (htheme : ∀ window ∈ studio.windows, ∀ theme, window.body.fill entry = .settings theme →
      allowed (.theme theme)) (events : List WindowEvent) :
    Relation.ReflTransGen (Shift allowed) studio (after (useWindow entry events) studio) := by
  cases hlast : studio.windows.getLast? with
  | none =>
    rw [useWindow, after_get_bind, hlast]
    exact .refl
  | some window =>
    have hwindow := List.mem_of_getLast? hlast
    rw [useWindow_of_getLast? hlast]
    refine .head (.fill hwindow entry) (shifts_handleWindowEvents ?_ events _)
    exact htheme window hwindow

theorem shifts_showFind (hfind : allowed .find) (replaces : Bool) :
    Through (Shift allowed) (showFind replaces) := by
  intro studio
  rw [showFind, after_get_bind]
  split
  · split
    · exact tweaks_tell _ _ _ studio
    · exact .single (.find ‹_› replaces hfind)
  · exact .refl

end Studio

/-! ## Commands -/

/-- The command can bring the notable change. -/
def Command.MayDo : Command → Notable → Prop
  | .newFile, .add => True
  | .openFile, .add => True
  | .openRecent _, .add => True
  | .createFile, .add => True
  | .closeTab, .add => True
  | .closeTab, .drop => True
  | .closeAllTabs, .add => True
  | .closeAllTabs, .drop => True
  | .switchTheme theme, .theme chosen => chosen = .text theme.name
  | .find, .find => True
  | .replace, .find => True
  | _, _ => False

theorem Command.MayDo.exists_theme {command : Command} {chosen : Datum}
    (h : command.MayDo (.theme chosen)) : ∃ theme : Theme, chosen = .text theme.name := by
  cases command with
  | switchTheme theme => exact ⟨theme, h⟩
  | _ => exact h.elim

namespace Studio

variable {allowed : Notable → Prop}

theorem shifts_perform {command : Command}
    (h : ∀ notable, command.MayDo notable → allowed notable) :
    Through (Shift allowed) (perform command) := by
  cases command with
  | newFile => exact shifts_newFile (h _ trivial)
  | showTemplates => exact edits_showTemplates
  | openFolder => exact shifts_openFolder
  | openFile => exact shifts_askAndOpen (h _ trivial)
  | openRecent name => exact shifts_openFile (h _ trivial) name
  | save => exact shifts_save.discard
  | saveAs => exact shifts_saveAs.discard
  | closeTab => exact shifts_closeTab (h .drop trivial) (h .add trivial)
  | closeAllTabs => exact shifts_closeAllTabs (h .drop trivial) (h .add trivial)
  | exit => exact shifts_close
  | passOn event => exact tweaks_passOn event
  | find => exact shifts_showFind (h _ trivial) false
  | replace => exact shifts_showFind (h _ trivial) true
  | goToLine => exact edits_goToLine
  | toggleComment => exact edits_toggleComment
  | complete => exact edits_offerCompletionsHere
  | run => exact tweaks_run
  | runSelection => exact tweaks_runSelection
  | clearConsole => exact tweaks_clearConsole
  | resetMachine => exact tweaks_resetMachine
  | checkProgram => exact tweaks_checkProgram
  | showSettings => exact edits_showSettings
  | switchTheme theme => exact shifts_switchTheme (h _ rfl)
  | showLanguageHelp | showShortcuts => exact tweaks_tell _ _ _
  | showAbout => exact through_get.bind fun _ => tweaks_tell _ _ _
  | createFile => exact shifts_createFile (h _ trivial)
  | createFolder | renameSelected | deleteSelected | refreshExplorer => exact tweaks_onSite _

/-! ## Deeds -/

/-- What can come of a deed, up to the tasks that wait. -/
inductive Follows (studio : Studio) : Deed → Studio → Prop where
  /-- The deed gives a command. -/
  | command {deed : Deed} (command : Command) {studio' : Studio}
    (hcore : studio'.core = studio.core) : Follows studio deed (after (perform command) studio')
  | cross (place : Nat) : Follows studio (.clickCross place) (after (closeTabAt place) studio)
  | window (entry : WindowEntry) (events : List WindowEvent) :
    Follows studio (.window entry events) (after (useWindow entry events) studio)
  /-- Of the notable changes, the deed brings a new tab at most. -/
  | plain {deed : Deed} {studio' : Studio}
    (h : Relation.ReflTransGen (Shift (· = .add)) studio studio') : Follows studio deed studio'

variable {studio : Studio}

theorem follows_performFound (deed : Deed) (found : Option Command) {studio' : Studio}
    (hcore : studio'.core = studio.core) :
    Follows studio deed (after (performFound found) studio') := by
  cases found with
  | none => exact .plain (.single (Tweaks.of_tweak (.besides hcore)))
  | some command => exact .command command hcore

theorem follows_useRowMenu (path : String) (choice : Option String) (studio : Studio) :
    Follows studio (.rowMenu path choice) (after (useRowMenu path choice) studio) := by
  have hcore := core_onSite (Site.showMenu path) studio
  cases hshow : onSite (Site.showMenu path) studio with
  | error trouble shown =>
    rw [after_of_error hshow] at hcore
    unfold useRowMenu
    rw [after_bind_of_error hshow]
    exact .plain (.single (Tweaks.of_tweak (.besides hcore)))
  | ok _ shown =>
    rw [after_of_ok hshow] at hcore
    unfold useRowMenu
    rw [after_bind_of_ok hshow]
    cases choice with
    | none => exact .plain (.single (Tweaks.of_tweak (.besides hcore)))
    | some label => exact follows_performFound _ _ hcore

theorem follows_follow (deed : Deed) (studio : Studio) :
    Follows studio deed (after (follow deed) studio) := by
  cases deed with
  | menu labels => exact follows_performFound _ (Menu.find? (Menu.bar studio.recentMenu) labels) rfl
  | key name => exact follows_performFound _ _ rfl
  | toolbar label => exact follows_performFound _ _ rfl
  | emptyConsole => exact .plain (tweaks_write _ studio)
  | close => exact .plain (shifts_close studio)
  | type text => exact .plain (edits_typeText text studio)
  | place cursor selection => exact .plain (edits_placeCursor cursor selection studio)
  | textEvent event cursorHidden => exact .plain (edits_handleEvent event cursorHidden studio)
  | scroll positions =>
    exact .plain ((through_currentId.bind fun id => tweaks_scrolled id positions) studio)
  | selectTab place => exact .plain (edits_selectTabAt place studio)
  | clickCross place => exact .cross place
  | window entry events => exact .window entry events
  | doubleClickRow path =>
    refine .plain (shifts_openRow ?_ path studio)
    rfl
  | rowMenu path choice => exact follows_useRowMenu path choice studio
  | line line => exact .plain (tweaks_runLine line studio)
  | look => exact .plain .refl

/-- The studio with other replies that lie ready. -/
def withReplies (studio : Studio) (replies : List Value) : Studio :=
  { studio with site := { studio.site with desk := { replies } } }

theorem next_eq (studio : Studio) (gesture : Gesture) :
    studio.next gesture =
      after settle (after (follow gesture.deed) (studio.withReplies gesture.replies)) :=
  after_thenSettle _ _

theorem Shift.mono {more : Notable → Prop} (himp : ∀ notable, allowed notable → more notable)
    {studio' : Studio} (h : Shift allowed studio studio') : Shift more studio studio' := by
  cases h with
  | edit h => exact .edit h
  | name id file => exact .name id file
  | remember recentFiles lastFolder recentMenu => exact .remember _ _ _
  | fill hwindow entry => exact .fill hwindow entry
  | add theme hadd => exact .add theme (himp _ hadd)
  | drop id hdrop => exact .drop id (himp _ hdrop)
  | theme theme htheme => exact .theme theme (himp _ htheme)
  | find hcurrent replaces hfind => exact .find hcurrent replaces (himp _ hfind)

/-- Every deed is a chain of shifts. A theme comes by its name or from a window. -/
theorem shifts_next (hadd : allowed .add) (hdrop : allowed .drop) (hfind : allowed .find)
    (hnamed : ∀ theme : Theme, allowed (.theme (.text theme.name)))
    (hchosen : ∀ window ∈ studio.windows, ∀ entry theme, window.body.fill entry = .settings theme →
      allowed (.theme theme)) (gesture : Gesture) :
    Relation.ReflTransGen (Shift allowed) studio (studio.next gesture) := by
  have hdesk : Shift allowed studio (studio.withReplies gesture.replies) :=
    Tweaks.of_tweak (.besides rfl)
  rw [next_eq]
  refine .trans (.head hdesk ?_) (tweaks_settle _)
  have hfollows := follows_follow gesture.deed (studio.withReplies gesture.replies)
  -- What the deed was no longer matters: only commands and windows bring a theme.
  generalize gesture.deed = deed, after _ _ = studio' at hfollows ⊢
  cases hfollows with
  | command command hcore =>
    refine .head (Tweaks.of_tweak (.besides hcore)) (shifts_perform (fun notable hmay => ?_) _)
    cases notable with
    | add => exact hadd
    | drop => exact hdrop
    | find => exact hfind
    | theme chosen =>
      obtain ⟨theme, rfl⟩ := hmay.exists_theme
      exact hnamed theme
  | cross place => exact shifts_closeTabAt hdrop place _
  | window entry events =>
    refine shifts_useWindow (fun window hwindow => ?_) events
    exact hchosen window hwindow entry
  | plain h =>
    refine Relation.ReflTransGen.mono (fun _ _ => Shift.mono fun notable heq => ?_) _ _ h
    rw [heq]
    exact hadd

/-- Every deed is a chain of shifts of some kind. -/
theorem shifts_next_any (studio : Studio) (gesture : Gesture) :
    Relation.ReflTransGen (Shift fun _ => True) studio (studio.next gesture) :=
  shifts_next trivial trivial trivial (fun _ => trivial) (fun _ _ _ _ _ => trivial) gesture

/-! ## The start -/

theorem shifts_loadSettings (h : ∀ values, Preferences.read studio.site.disk = .ok (some values) →
      allowed (.theme values.theme)) :
    Relation.ReflTransGen (Shift allowed) studio (after loadSettings studio) := by
  rw [loadSettings, after_get_bind]
  split
  · exact .refl
  · rename_i values hread
    refine .tail (.single (.remember values.recentFiles values.lastFolder studio.recentMenu)) ?_
    exact .theme values.theme (h values hread)
  · refine Through.bind (tweaks_printLine _) (fun _ => ?_) studio
    exact through_modify fun studio => .remember _ _ _

theorem shifts_setUp (hadd : allowed .add) (styles : List String)
    (htheme : ∀ values, Preferences.read studio.site.disk = .ok (some values) →
      allowed (.theme values.theme)) :
    Relation.ReflTransGen (Shift allowed) studio (after (setUp styles) studio) := by
  rw [setUp, after_bind_of_ok (printLine_ok _ studio), after_modify_bind, after_get_bind,
    after_bind_of_ok (printLine_ok _ _)]
  refine chain_bind (.head ?_ (shifts_loadSettings ?_)) fun _ => ?_
  · exact Tweaks.of_tweak (.besides rfl)
  · exact htheme
  refine Through.bind (tweaks_modify ?_) fun _ => ?_
  · exact fun _ => rfl
  refine (tweaks_printLine _).bind fun _ => shifts_refreshRecentMenu.bind fun _ => ?_
  refine Through.bind (tweaks_modify ?_) fun _ => ?_
  · exact fun _ => rfl
  exact tweaks_applyTheme.bind fun _ => tweaks_showLastFolder.bind fun _ =>
    (shifts_newWelcomeTab hadd).bind fun _ => tweaks_greet.bind fun _ => tweaks_printLine _

end Studio

namespace Session

open Studio

theorem shifts_first {allowed : Notable → Prop} (hadd : allowed .add) {session : Session}
    (htheme : ∀ values, Preferences.read session.disk = .ok (some values) →
      allowed (.theme values.theme)) :
    Relation.ReflTransGen (Shift allowed) session.blank session.first := by
  rw [first, after_thenSettle, start, after_bind_of_ok (printLine_ok _ _)]
  refine .trans (chain_attempt (.head ?_ (shifts_setUp hadd session.styles ?_)) fun trouble => ?_)
    (tweaks_settle _)
  · exact Tweaks.of_tweak (.besides rfl)
  · exact htheme
  · exact (tweaks_printLine _).bind fun _ => through_throw trouble

theorem first_mem_scanl (studio : Studio) (gestures : List Gesture) :
    studio ∈ gestures.scanl next studio := by
  cases gestures <;> simp

theorem forall_mem_states {session : Session} {holds : Studio → Prop}
    (hstart : holds session.first)
    (hnext : ∀ studio gesture, holds studio → holds (studio.next gesture)) :
    ∀ studio ∈ session.states, holds studio := by
  unfold states
  generalize session.first = first at hstart ⊢
  induction session.gestures generalizing first with
  | nil => simpa using hstart
  | cons gesture rest ih =>
    rw [List.scanl_cons]
    exact List.forall_mem_cons.mpr ⟨hstart, ih _ (hnext first gesture hstart)⟩

/-- What every shift keeps holds in every state. -/
theorem survives_states {session : Session} {holds : Studio → Prop}
    (hstep : ∀ studio studio', Shift (fun _ => True) studio studio' → holds studio → holds studio')
    (hblank : holds session.blank) :
    ∀ studio ∈ session.states, holds studio := by
  have hstarted : Relation.ReflTransGen (Shift fun _ => True) session.blank session.first :=
    shifts_first trivial fun _ _ => trivial
  refine forall_mem_states (survives_chain holds hstep hstarted hblank) fun studio gesture h => ?_
  exact survives_chain holds hstep (shifts_next_any studio gesture) h

theorem studio_mem_states (session : Session) : session.studio ∈ session.states :=
  List.mem_of_getLast? List.getLast?_scanl

end Session

end ScriptStudio
