import Mathlib.Data.List.Basic
import ScriptStudio.Proofs.StudioLedger

/-!
# What a deed does to the ledger

A deed of the user changes the ledger in one of a few ways. It sets the theme or the last folder; it
keeps, renames and closes tabs, perhaps with a new tab after that; or it opens a file in a new tab
and remembers it. This is `Ledger.Turn`, and `Studio.turn_follow` says it of every deed.

* `Ledger.Keeps`, `Ledger.Closes`, `Ledger.Themes`: the ways of single actions.
* `Menu.find?_bar`, `Menu.find?_explorer`: which names of files menus can bring.
-/

namespace ScriptStudio

namespace Ledger

/-- The ledger with a new tab that has no file. -/
def added (ledger : Ledger) : Ledger :=
  { ledger with
    files := ledger.files ++ [(ledger.nextId, none)]
    nextId := ledger.nextId + 1 }

/-- The ledger with a file for the tab of a number. -/
def named (ledger : Ledger) (id : Nat) (name : FileName) : Ledger :=
  { ledger with files := ledger.files.map fun tab => if tab.1 = id then (id, some name) else tab }

/-- The ledger with other recent files, and with a menu that was made from them. -/
def remembering (ledger : Ledger) (recent : Datum) (disk : Disk) : Ledger :=
  { ledger with
    settings := { ledger.settings with recentFiles := recent }
    recentMenu := (Recent.menu disk recent).1 }

/-- Tabs are kept, get a typed name or are closed, and nothing else changes. -/
structure Keeps (before after : Ledger) : Prop where
  nextId : after.nextId = before.nextId
  settings : after.settings = before.settings
  recentMenu : after.recentMenu = before.recentMenu
  ids : (after.files.map (·.1)).Sublist (before.files.map (·.1))
  files : ∀ tab ∈ after.files, tab ∈ before.files ∨
    ∃ old path, (tab.1, old) ∈ before.files ∧ tab.2 = some (.typed path)

theorem Keeps.refl (ledger : Ledger) : Keeps ledger ledger :=
  ⟨rfl, rfl, rfl, .refl _, fun _ h => .inl h⟩

variable {before after : Ledger}

theorem Keeps.trans {middle : Ledger} (h : Keeps before middle) (h' : Keeps middle after) :
    Keeps before after where
  nextId := h'.nextId.trans h.nextId
  settings := h'.settings.trans h.settings
  recentMenu := h'.recentMenu.trans h.recentMenu
  ids := h'.ids.trans h.ids
  files := by
    intro tab htab
    rcases h'.files tab htab with hold | ⟨old, path, hold, hnew⟩
    · exact h.files tab hold
    · rcases h.files _ hold with holder | ⟨older, _, holder, _⟩
      · exact .inr ⟨old, path, holder, hnew⟩
      · exact .inr ⟨older, path, holder, hnew⟩

instance : Std.Refl Keeps := ⟨Keeps.refl⟩

instance : IsTrans Ledger Keeps := ⟨fun _ _ _ => Keeps.trans⟩

theorem map_fst_named (ledger : Ledger) (id : Nat) (name : FileName) :
    (ledger.named id name).files.map (·.1) = ledger.files.map (·.1) := by
  rw [named, List.map_map]
  refine List.map_congr_left fun tab _ => ?_
  dsimp only [Function.comp]
  split
  · exact (‹tab.1 = id›).symm
  · rfl

theorem keeps_named (ledger : Ledger) (id : Nat) (path : String) :
    Keeps ledger (ledger.named id (.typed path)) where
  nextId := rfl
  settings := rfl
  recentMenu := rfl
  ids := by
    rw [map_fst_named]
  files := by
    intro tab htab
    obtain ⟨old, hold, rfl⟩ := List.mem_map.mp htab
    split
    · rename_i hid
      exact .inr ⟨old.2, path, by rwa [← hid], rfl⟩
    · exact .inl hold

theorem keeps_filter (ledger : Ledger) (id : Nat) :
    Keeps ledger { ledger with files := ledger.files.filter (·.1 != id) } where
  nextId := rfl
  settings := rfl
  recentMenu := rfl
  ids := List.filter_sublist.map _
  files := fun _ htab => .inl (List.mem_of_mem_filter htab)

/-- Tabs are kept, named or closed, and then there may be a new tab. -/
def Closes (before after : Ledger) : Prop :=
  ∃ middle, Keeps before middle ∧ (after = middle ∨ after = middle.added)

theorem Keeps.closes (h : Keeps before after) : Closes before after :=
  ⟨after, h, .inl rfl⟩

theorem Keeps.trans_closes {middle : Ledger} (h : Keeps before middle) (h' : Closes middle after) :
    Closes before after := by
  obtain ⟨last, hlast, hafter⟩ := h'
  exact ⟨last, h.trans hlast, hafter⟩

instance : Std.Refl Closes := ⟨fun ledger => (Keeps.refl ledger).closes⟩

/-- Only the theme may have changed, to one with a name. -/
def Themes (before after : Ledger) : Prop :=
  after = before ∨
    ∃ name, after = { before with settings := { before.settings with theme := .text name } }

instance : Std.Refl Themes := ⟨fun _ => .inl rfl⟩

instance : IsTrans Ledger Themes where
  trans := by
    rintro before _ _ (rfl | ⟨name, rfl⟩) (rfl | ⟨last, rfl⟩)
    · exact .inl rfl
    · exact .inr ⟨last, rfl⟩
    · exact .inr ⟨name, rfl⟩
    · exact .inr ⟨last, rfl⟩

/-- What a deed can do. Names are typed by the user or stand in the menu of recent files, unless the
deed may build one. -/
inductive Turn (mayBuild : Prop) (ledger : Ledger) : Ledger → Prop where
  | themes {after : Ledger} (h : Themes ledger after) : Turn mayBuild ledger after
  | folder (path : String) :
    Turn mayBuild ledger
      { ledger with settings := { ledger.settings with lastFolder := .text path } }
  | closes {after : Ledger} (h : Closes ledger after) : Turn mayBuild ledger after
  /-- A file is opened in a new tab, but could not be remembered. -/
  | opens (name : FileName) (hnew : ∀ id, (id, some name) ∉ ledger.files) :
    Turn mayBuild ledger (ledger.added.named ledger.nextId name)
  | remembers (name : FileName) (hnew : ∀ id, (id, some name) ∉ ledger.files)
    (hname : mayBuild ∨ .file name ∈ ledger.recentMenu ∨ ∃ path, name = .typed path)
    {recent : Datum} (hrecent : Recent.remember name ledger.settings.recentFiles = .ok recent)
    (disk : Disk) :
    Turn mayBuild ledger ((ledger.added.named ledger.nextId name).remembering recent disk)

theorem Turn.refl (mayBuild : Prop) (ledger : Ledger) : Turn mayBuild ledger ledger :=
  .themes (.inl rfl)

instance (mayBuild : Prop) : Std.Refl (Turn mayBuild) := ⟨Turn.refl mayBuild⟩

end Ledger

namespace Studio

open Ledger

/-! ## Themes and folders -/

theorem themes_setTheme (name : String) : Moves Themes (setTheme (.text name)) :=
  Moves.bind_edits (Moves.modify fun _ => .inr ⟨name, rfl⟩) fun _ => tweaks_applyTheme

theorem themes_switchTheme (theme : Theme) : Moves Themes (switchTheme theme) := by
  refine Through.bind_moves (tweaks_modify ?_) fun _ => ?_
  · exact fun _ => rfl
  refine through_get.bind_moves fun studio => ?_
  split
  · exact (themes_setTheme _).bind_edits fun _ => tweaks_printLine _
  · exact (through_pure ()).moves

theorem themes_chooseTheme (theme : Datum) : Moves Themes (chooseTheme theme) := by
  unfold chooseTheme
  split
  · refine through_get.bind_moves fun studio => ?_
    split
    · refine Through.bind_moves (tweaks_modify ?_) fun _ => themes_setTheme _
      exact fun _ => rfl
    · exact (through_pure ()).moves
  · exact (through_pure ()).moves

theorem themes_applySettings (window : Nat) (theme : Datum) :
    Moves Themes (applySettings window theme) :=
  (themes_chooseTheme theme).bind_edits fun _ => tweaks_saveSettings.bind fun _ =>
    (edits_closeWindow window).bind fun _ => tweaks_tell _ _ _

theorem themes_pressButton (window : Window) (label : String) :
    Moves Themes (pressButton window label) := by
  unfold pressButton
  split
  · exact (edits_applyTemplate _ _).moves
  · exact themes_applySettings _ _
  · exact (edits_searchOnce _ _).moves
  · exact (edits_searchOnce _ _).moves
  · exact (edits_replaceAll _ _ _).moves
  · exact (edits_closeWindow _).moves
  · exact (through_pure ()).moves

theorem themes_handleWindow (window : Window) (event : WindowEvent) :
    Moves Themes (handleWindow window event) := by
  unfold handleWindow
  split
  · exact themes_pressButton window _
  · exact (edits_closeWindow _).moves
  · exact (edits_applyTemplate _ _).moves
  · exact (edits_acceptCompletion _ _ _ _).moves
  · exact (edits_acceptCompletion _ _ _ _).moves
  · exact (edits_closeWindow _).moves
  · exact (edits_closeWindow _).moves
  · exact (through_pure ()).moves

theorem themes_handleWindowEvents (window : Window) (events : List WindowEvent) :
    Moves Themes (handleWindowEvents window events) := by
  induction events with
  | nil => exact (through_pure ()).moves
  | cons event rest ih => exact (themes_handleWindow window event).bind fun _ => ih

theorem themes_useWindow (entry : WindowEntry) (events : List WindowEvent) :
    Moves Themes (useWindow entry events) := by
  refine through_get.bind_moves fun studio => ?_
  split
  · exact (through_throw _).moves
  · refine Quiet.bind_moves (leaves_modify ?_) fun _ => themes_handleWindowEvents _ events
    exact fun _ => rfl

theorem turn_openFolder (mayBuild : Prop) : Moves (Turn mayBuild) openFolder := by
  refine (tweaks_askPath _ _).bind_moves fun reply => ?_
  split
  · refine (tweaks_onSite _).bind_moves fun _ => ?_
    exact Moves.bind_edits (Moves.modify fun _ => .folder _) fun _ => tweaks_setStatus _
  · exact (through_pure ()).moves

/-! ## Saving and closing -/

/-- Giving an editor a file is what names its tab. -/
theorem changeEditor_file_eq (id : Nat) (name : FileName) (studio : Studio) :
    ∃ studio', changeEditor id
        (fun editor => { editor with file := some name, isModified := false }) studio =
          .ok () studio' ∧ studio'.ledger = studio.ledger.named id name := by
  refine ⟨_, rfl, ?_⟩
  have hfiles : (changeIn id (fun editor => { editor with file := some name, isModified := false })
      studio.editors).map (fun tab => (tab.1, tab.2.file)) =
      (studio.ledger.named id name).files := by
    simp only [changeIn, named, ledger, List.map_map]
    refine List.map_congr_left fun tab _ => ?_
    dsimp only [Function.comp]
    split
    · exact congrArg (·, some name) ‹tab.1 = id›
    · rfl
  exact congrArg (fun files => { studio.ledger with files := files }) hfiles

theorem keeps_saveAs : Moves Keeps saveAs := by
  refine Moves.attempt ?_ fun trouble =>
    (tweaks_printLine _).bind fun _ => tweaks_reportUnsaved trouble
  refine through_get.bind_moves fun studio => ?_
  split
  · exact (through_pure false).moves
  · refine (tweaks_askPath _ _).bind_moves fun reply => ?_
    split
    · exact (through_pure false).moves
    · rename_i path
      refine (tweaks_writeEditor _ _).bind_moves fun _ => ?_
      refine Moves.bind_edits (fun studio => ?_) fun _ => tweaks_updateTitle.bind fun _ =>
        (tweaks_setStatus _).bind fun _ => through_pure true
      obtain ⟨studio', hok, hnamed⟩ := changeEditor_file_eq _ (.typed path) studio
      rw [after_of_ok hok, hnamed]
      exact keeps_named _ _ path

theorem keeps_save : Moves Keeps save := by
  refine Moves.attempt ?_ tweaks_reportUnsaved
  refine through_get.bind_moves fun studio => ?_
  split
  · exact (through_pure false).moves
  · split
    · exact keeps_saveAs
    · refine Through.moves ((tweaks_writeEditor _ _).bind fun _ => ?_)
      exact Through.bind (tweaks_changeEditor _ fun _ => rfl) fun _ =>
        tweaks_updateTitle.bind fun _ => (tweaks_setStatus _).bind fun _ => through_pure true

theorem keeps_settleChanges (id : Nat) : Moves Keeps (settleChanges id) := by
  refine through_get.bind_moves fun studio => ?_
  split
  · exact (through_pure true).moves
  · split
    · exact (through_pure true).moves
    · refine (edits_selectTab id).bind_moves fun _ => (tweaks_onSite _).bind_moves fun reply => ?_
      split
      · exact keeps_save
      · exact (through_pure true).moves
      · exact (through_pure false).moves

theorem keeps_settleAll (ids : List Nat) : Moves Keeps (settleAll ids) := by
  induction ids with
  | nil => exact (through_pure true).moves
  | cons id rest ih =>
    refine (keeps_settleChanges id).bind fun goOn => ?_
    split
    · exact ih
    · exact (through_pure false).moves

theorem ledger_withoutTab (id : Nat) (studio : Studio) :
    (studio.withoutTab id).ledger =
      { studio.ledger with files := studio.ledger.files.filter (·.1 != id) } := by
  have hfiles : (studio.editors.filter (·.1 != id)).map (fun tab => (tab.1, tab.2.file)) =
      studio.ledger.files.filter (·.1 != id) := by
    rw [ledger, List.filter_map]
    rfl
  rw [← hfiles]
  rfl

theorem keeps_dropTab (id : Nat) : Moves Keeps (dropTab id) := by
  intro studio
  obtain ⟨tasks, hend⟩ := dropTab_eq id studio
  have hkeeps := keeps_filter studio.ledger id
  rw [← ledger_withoutTab] at hkeeps
  rw [after_of_ok hend]
  exact hkeeps

theorem keeps_dropTabs (ids : List Nat) : Moves Keeps (dropTabs ids) := by
  induction ids with
  | nil => exact (through_pure ()).moves
  | cons id rest ih => exact (keeps_dropTab id).bind fun _ => ih

/-! ## New tabs -/

/-- A new tab takes the next number and has no file. -/
theorem ledger_withTab (theme : Theme) (studio : Studio) :
    (studio.withTab theme).ledger = studio.ledger.added := by
  have hnext : ((studio.notebook.add "Untitled *").select studio.notebook.nextId).nextId =
      studio.notebook.nextId + 1 := by
    unfold Notebook.select
    split <;> rfl
  simp only [ledger, withTab, added, hnext, List.map_append]
  rfl

/-- A new tab is filled, or there is none. -/
theorem ledger_newTab {holds : Ledger → Prop} (fill : Nat → Act Unit) (studio : Studio)
    (hsame : holds studio.ledger)
    (hfill : ∀ studio', studio'.ledger = studio.ledger.added →
      holds (after (fill studio.ledger.nextId) studio').ledger) :
    holds (after (newTab fill) studio).ledger := by
  have hhandle : ∀ trouble : Trouble, Quiet (do
      printLine ("Error creating new tab: " ++ trouble.message)
      tell .error "Error" ("Failed to create tab: " ++ trouble.message)) := fun trouble =>
    Through.quiet ((tweaks_printLine _).bind fun _ => tweaks_tell _ _ _)
  rw [newTab, part_attempt _ hhandle, after_get_bind]
  cases themeOf studio.theme with
  | error trouble => exact hsame
  | ok theme =>
    obtain ⟨tasks, hadd⟩ := addTab_eq theme studio
    have hokay : orTrouble (.ok theme) studio = .ok theme studio := rfl
    rw [after_bind_of_ok hokay, after_bind_of_ok hadd,
      part_bind _ fun _ => tweaks_updateTitle.quiet]
    exact hfill _ (ledger_withTab theme studio)

theorem closes_newTab {fill : Nat → Act Unit} (hfill : ∀ id, Through Edit (fill id)) :
    Moves Closes (newTab fill) := by
  intro studio
  refine ledger_newTab fill studio (Std.Refl.refl _) fun studio' hledger => ?_
  rw [(hfill _).quiet studio', hledger]
  exact ⟨_, Keeps.refl _, .inr rfl⟩

theorem closes_newWelcomeTab : Moves Closes newWelcomeTab :=
  closes_newTab fun id => edits_setText id _ _

theorem closes_newFile : Moves Closes newFile :=
  (closes_newTab fun _ => through_pure ()).bind_edits fun _ => tweaks_setStatus _

theorem closes_closeTab : Moves Closes closeTab := by
  refine through_get.bind_moves fun studio => ?_
  split
  · exact (through_pure ()).moves
  · rename_i id editor _
    refine (keeps_settleChanges id).comp (fun goOn => ?_) (fun _ _ h => h.closes)
      fun _ _ _ => Keeps.trans_closes
    split
    · refine (keeps_dropTab id).comp (fun _ => ?_) (fun _ _ h => h.closes)
        fun _ _ _ => Keeps.trans_closes
      refine tweaks_updateTitle.bind_moves fun _ => through_get.bind_moves fun studio => ?_
      split
      · exact closes_newWelcomeTab
      · exact (through_pure ()).moves
    · exact (through_pure ()).moves

theorem closes_closeAllTabs : Moves Closes closeAllTabs := by
  refine through_get.bind_moves fun studio => ?_
  refine (keeps_settleAll _).comp (fun goOn => ?_) (fun _ _ h => h.closes)
    fun _ _ _ => Keeps.trans_closes
  split
  · refine through_get.bind_moves fun studio => ?_
    refine (keeps_dropTabs _).comp (fun _ => ?_) (fun _ _ h => h.closes)
      fun _ _ _ => Keeps.trans_closes
    exact tweaks_updateTitle.bind_moves fun _ => closes_newWelcomeTab
  · exact (through_pure ()).moves

theorem keeps_closeTabAt (place : Nat) : Moves Keeps (closeTabAt place) := by
  refine through_get.bind_moves fun studio => ?_
  split
  · exact (through_pure ()).moves
  · rename_i id _
    refine (keeps_settleChanges id).bind fun goOn => ?_
    split
    · exact (keeps_dropTab id).bind_edits fun _ => tweaks_updateTitle
    · exact (through_pure ()).moves

theorem keeps_close : Moves Keeps close := by
  refine through_get.bind_moves fun studio => (keeps_settleAll _).bind fun goOn => ?_
  split
  · exact Through.moves (tweaks_saveSettings.bind fun _ => tweaks_modify fun _ => rfl)
  · exact (through_pure ()).moves

/-! ## Opening files -/

theorem ledger_refreshRecentMenu (studio : Studio) :
    ∃ disk, (after refreshRecentMenu studio).ledger =
      { studio.ledger with
        recentMenu := (Recent.menu disk studio.ledger.settings.recentFiles).1 } := by
  refine ⟨studio.site.disk, ?_⟩
  rw [refreshRecentMenu, after_get_bind]
  split
  rename_i items trouble hmenu
  have hitems : items = (Recent.menu studio.site.disk studio.recentFiles).1 := by rw [hmenu]
  rw [after_modify_bind, hitems]
  cases trouble with
  | none => rfl
  | some trouble => rfl

variable {name : FileName} {studio : Studio}

theorem rememberFile_of_ok {recent : Datum}
    (h : Recent.remember name studio.recentFiles = .ok recent) :
    rememberFile name studio = .ok () { studio with recentFiles := recent } := by
  have hget : (get : Act Studio) studio = .ok studio studio := rfl
  rw [rememberFile, bind_of_ok hget, h]
  rfl

theorem rememberFile_of_error {trouble : Trouble}
    (h : Recent.remember name studio.recentFiles = .error trouble) :
    rememberFile name studio = .error trouble studio := by
  have hget : (get : Act Studio) studio = .ok studio studio := rfl
  rw [rememberFile, bind_of_ok hget, h]
  rfl

/-- A file that is read into a tab names it and is remembered, as far as that goes. -/
def Reads (id : Nat) (name : FileName) (before after : Ledger) : Prop :=
  after = before ∨ after = before.named id name ∨
    ∃ recent disk, Recent.remember name before.settings.recentFiles = .ok recent ∧
      after = (before.named id name).remembering recent disk

instance (id : Nat) (name : FileName) : Std.Refl (Reads id name) := ⟨fun _ => .inl rfl⟩

theorem reads_readInto (id : Nat) (name : FileName) : Moves (Reads id name) (readInto id name) := by
  refine through_get.bind_moves fun studio => (through_orTrouble _).bind_moves fun text => ?_
  refine (edits_setText id text _).bind_moves fun _ studio => ?_
  obtain ⟨named, hok, hnamed⟩ := changeEditor_file_eq id name studio
  rw [after_bind_of_ok hok]
  have hsettings : named.recentFiles = studio.ledger.settings.recentFiles :=
    congrArg (·.settings.recentFiles) hnamed
  cases hrecent : Recent.remember name named.recentFiles with
  | error trouble =>
    rw [after_bind_of_error (rememberFile_of_error hrecent), hnamed]
    exact .inr (.inl rfl)
  | ok recent =>
    rw [after_bind_of_ok (rememberFile_of_ok hrecent),
      part_bind _ fun _ => tweaks_saveSettings.quiet]
    obtain ⟨disk, hmenu⟩ := ledger_refreshRecentMenu { named with recentFiles := recent }
    rw [hsettings] at hrecent
    refine .inr (.inr ⟨recent, disk, hrecent, ?_⟩)
    rw [hmenu, ← hnamed]
    rfl

theorem turn_openFile {mayBuild : Prop}
    (hname : mayBuild ∨ .file name ∈ studio.ledger.recentMenu ∨ ∃ path, name = .typed path) :
    Turn mayBuild studio.ledger (after (openFile name) studio).ledger := by
  rw [openFile, after_get_bind]
  cases htab : studio.tabOf? name with
  | some id =>
    rw [(edits_selectTab id).quiet studio]
    exact Turn.refl _ _
  | none =>
    have hnew : ∀ id, (id, some name) ∉ studio.ledger.files := by
      intro id hmem
      obtain ⟨tab, hopen, hfile⟩ := List.mem_map.mp hmem
      rw [tabOf?, Option.map_eq_none_iff, List.find?_eq_none] at htab
      have hother := htab tab hopen
      rw [Prod.mk.injEq] at hfile
      simp [hfile.2] at hother
    rw [part_bind _ fun _ => (tweaks_setStatus _).quiet]
    refine ledger_newTab _ studio (Turn.refl _ _) fun studio' hledger => ?_
    have hreads := reads_readInto studio.ledger.nextId name studio'
    rw [hledger] at hreads
    rcases hreads with hend | hend | ⟨recent, disk, hrecent, hend⟩
    · rw [hend]
      exact .closes ⟨_, Keeps.refl _, .inr rfl⟩
    · rw [hend]
      exact .opens name hnew
    · rw [hend]
      exact .remembers name hnew hname hrecent disk

end Studio

/-! ## Menus -/

namespace Menu

/-- All commands in menus. -/
def commands : List MenuItem → List Command
  | [] => []
  | .command _ command :: rest => command :: commands rest
  | .radio _ command :: rest => command :: commands rest
  | .submenu _ items :: rest => commands items ++ commands rest
  | .disabled _ :: rest => commands rest
  | .separator :: rest => commands rest

variable {command : Command}

theorem mem_commands_of_find? {items : List MenuItem} {labels : List String}
    (h : find? items labels = some command) : command ∈ commands items := by
  fun_induction find? items labels with
  | case1 | case2 => cases h
  | case3 | case5 =>
    cases h
    rw [commands]
    exact List.mem_cons_self
  | case4 _ _ _ _ _ _ ih | case6 _ _ _ _ _ _ ih =>
    rw [commands]
    exact List.mem_cons_of_mem _ (ih h)
  | case7 _ _ _ _ ih =>
    rw [commands]
    exact List.mem_append_left _ (ih h)
  | case8 _ _ _ _ _ _ ih =>
    rw [commands]
    exact List.mem_append_right _ (ih h)
  | case9 _ _ _ _ ih | case10 _ _ _ ih =>
    rw [commands]
    exact ih h

/-- The command opens no file by a name of its own. -/
def isPlain : Command → Bool
  | .openRecent _ => false
  | .createFile => false
  | _ => true

theorem mem_commands_recent {items : List RecentItem} (h : command ∈ commands (recent items)) :
    ∃ name, command = .openRecent name ∧ .file name ∈ items := by
  induction items with
  | nil =>
    rw [recent, List.map_nil, commands] at h
    cases h
  | cons item rest ih =>
    rw [recent, List.map_cons] at h
    rw [recent] at ih
    cases item with
    | nothing =>
      rw [commands] at h
      obtain ⟨name, hcommand, hname⟩ := ih h
      exact ⟨name, hcommand, List.mem_cons_of_mem _ hname⟩
    | file name =>
      rw [commands] at h
      rcases List.mem_cons.mp h with rfl | h
      · exact ⟨name, rfl, List.mem_cons_self⟩
      · obtain ⟨other, hcommand, hname⟩ := ih h
        exact ⟨other, hcommand, List.mem_cons_of_mem _ hname⟩

/-- The menu bar has the recent files, and besides them plain commands. -/
theorem find?_bar {items : List RecentItem} {labels : List String}
    (h : find? (bar items) labels = some command) :
    isPlain command ∨ ∃ name, command = .openRecent name ∧ .file name ∈ items := by
  have hmem := mem_commands_of_find? h
  simp only [bar, file, edit, run, tools, view, help, commands, List.append_nil, List.cons_append,
    List.nil_append, List.append_assoc] at hmem
  change command ∈ [.newFile, .showTemplates, .openFolder, .openFile] ++
    (commands (recent items) ++ _) at hmem
  rcases List.mem_append.mp hmem with hmem | hmem
  · have hplain : ∀ command ∈ [Command.newFile, .showTemplates, .openFolder, .openFile],
        isPlain command = true := by decide
    exact .inl (hplain command hmem)
  rcases List.mem_append.mp hmem with hmem | hmem
  · exact .inr (mem_commands_recent hmem)
  · refine .inl (List.all_eq_true.mp ?_ command hmem)
    rfl

/-- Of the menu of the explorer, only the first entry makes a file. -/
theorem find?_explorer {allowsChange : Bool} {label : String}
    (h : find? (explorer allowsChange) [label] = some command) :
    isPlain command ∨ command = .createFile ∧ label = "New File..." := by
  rw [explorer, find?] at h
  split at h
  · rename_i hlabel
    cases h
    exact .inr ⟨rfl, (List.cons.inj hlabel).1⟩
  · refine .inl (List.all_eq_true.mp ?_ command (mem_commands_of_find? h))
    cases allowsChange <;> simp [commands, isPlain]
  · exact List.cons_ne_nil _ _

theorem isPlain_of_lookup {table : List (String × Command)} (htable : table.all (isPlain ·.2))
    {name : String} (h : table.lookup name = some command) : isPlain command := by
  obtain ⟨before, after, rfl, _⟩ := List.lookup_eq_some_iff.mp h
  exact List.all_eq_true.mp htable (name, command) (by simp)

end Menu

/-- The deed takes the entry of the explorer's menu that makes a file. -/
def Deed.Builds (deed : Deed) : Prop := ∃ path, deed = .rowMenu path (some "New File...")

namespace Studio

open Ledger

/-! ## Commands -/

variable {mayBuild : Prop}

theorem turn_openFile_typed (path : String) : Moves (Turn mayBuild) (openFile (.typed path)) :=
  fun _ => turn_openFile (.inr (.inr ⟨path, rfl⟩))

theorem turn_askAndOpen : Moves (Turn mayBuild) askAndOpen := by
  refine (tweaks_askPath _ _).bind_moves fun reply => ?_
  split
  · exact turn_openFile_typed _
  · exact (through_pure ()).moves

theorem turn_createFile (hbuild : mayBuild) : Moves (Turn mayBuild) createFile := by
  refine (tweaks_onSite _).bind_moves fun made => ?_
  split
  · exact Moves.bind_edits (fun _ => turn_openFile (.inl hbuild)) fun _ => tweaks_onSite _
  · exact (through_pure ()).moves

theorem turn_perform {command : Command} (h : Menu.isPlain command) :
    Moves (Turn mayBuild) (perform command) := by
  cases command with
  | newFile => exact closes_newFile.mono fun _ _ => .closes
  | openFolder => exact turn_openFolder mayBuild
  | openFile => exact turn_askAndOpen
  | openRecent name => cases h
  | save => exact keeps_save.discard.mono fun _ _ hkeeps => .closes hkeeps.closes
  | saveAs => exact keeps_saveAs.discard.mono fun _ _ hkeeps => .closes hkeeps.closes
  | closeTab => exact closes_closeTab.mono fun _ _ => .closes
  | closeAllTabs => exact closes_closeAllTabs.mono fun _ _ => .closes
  | exit => exact keeps_close.mono fun _ _ hkeeps => .closes hkeeps.closes
  | switchTheme theme => exact (themes_switchTheme theme).mono fun _ _ => .themes
  | createFile => cases h
  | showTemplates => exact edits_showTemplates.moves
  | passOn event => exact (tweaks_passOn event).moves
  | find => exact (quiet_showFind false).moves
  | replace => exact (quiet_showFind true).moves
  | goToLine => exact edits_goToLine.moves
  | toggleComment => exact edits_toggleComment.moves
  | complete => exact edits_offerCompletionsHere.moves
  | run => exact tweaks_run.moves
  | runSelection => exact tweaks_runSelection.moves
  | clearConsole => exact tweaks_clearConsole.moves
  | resetMachine => exact tweaks_resetMachine.moves
  | checkProgram => exact tweaks_checkProgram.moves
  | showSettings => exact edits_showSettings.moves
  | showLanguageHelp | showShortcuts => exact (tweaks_tell _ _ _).moves
  | showAbout => exact Through.moves (through_get.bind fun _ => tweaks_tell _ _ _)
  | createFolder | renameSelected | deleteSelected | refreshExplorer =>
    exact (tweaks_onSite _).moves

theorem turn_performFound {found : Option Command}
    (h : ∀ command, found = some command → Menu.isPlain command) :
    Moves (Turn mayBuild) (performFound found) := by
  cases found with
  | none => exact (through_pure ()).moves
  | some command => exact turn_perform (h command rfl)

/-! ## Deeds -/

theorem turn_menu (labels : List String) : Moves (Turn mayBuild) (follow (.menu labels)) := by
  intro studio
  rw [follow, after_get_bind]
  cases hfound : Menu.find? (Menu.bar studio.recentMenu) labels with
  | none => exact Turn.refl _ _
  | some command =>
    rcases Menu.find?_bar hfound with hplain | ⟨name, rfl, hname⟩
    · exact turn_perform hplain studio
    · exact turn_openFile (.inr (.inl hname))

theorem turn_openRow (path : String) : Moves (Turn mayBuild) (openRow path) := by
  refine (tweaks_onSite _).bind_moves fun found => ?_
  split
  · exact turn_openFile_typed _
  · exact (through_pure ()).moves

theorem turn_useRowMenu (path : String) (choice : Option String) :
    Moves (Turn (Deed.rowMenu path choice).Builds) (useRowMenu path choice) := by
  refine (tweaks_onSite _).bind_moves fun _ => ?_
  cases choice with
  | none => exact (through_pure ()).moves
  | some label =>
    refine through_get.bind_moves fun studio => ?_
    cases hfound : Menu.find? (Menu.explorer studio.site.explorer.allowsChange) [label] with
    | none => exact (through_pure ()).moves
    | some command =>
      rcases Menu.find?_explorer hfound with hplain | ⟨rfl, rfl⟩
      · exact turn_perform hplain
      · exact turn_createFile ⟨path, rfl⟩

/-- Every deed is a turn of the ledger. -/
theorem turn_follow (deed : Deed) : Moves (Turn deed.Builds) (follow deed) := by
  cases deed with
  | menu labels => exact turn_menu labels
  | key name => exact turn_performFound fun _ => Menu.isPlain_of_lookup rfl
  | toolbar label => exact turn_performFound fun _ => Menu.isPlain_of_lookup rfl
  | emptyConsole => exact (tweaks_write _).moves
  | close => exact keeps_close.mono fun _ _ hkeeps => .closes hkeeps.closes
  | type text => exact (edits_typeText text).moves
  | place cursor selection => exact (edits_placeCursor cursor selection).moves
  | textEvent event cursorHidden => exact (edits_handleEvent event cursorHidden).moves
  | scroll positions =>
    exact Through.moves (through_currentId.bind fun id => tweaks_scrolled id positions)
  | selectTab place => exact (edits_selectTabAt place).moves
  | clickCross place =>
    exact (keeps_closeTabAt place).mono fun _ _ hkeeps => .closes hkeeps.closes
  | window entry events => exact (themes_useWindow entry events).mono fun _ _ => .themes
  | doubleClickRow path => exact turn_openRow path
  | rowMenu path choice => exact turn_useRowMenu path choice
  | line line => exact (tweaks_runLine line).moves
  | look => exact (through_pure ()).moves

end Studio

end ScriptStudio
