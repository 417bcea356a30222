import ScriptStudio.Proofs.FailedOpening
import ScriptStudio.Proofs.SettingsSurvive

/-!
# The start with any settings file

What a settings file holds is taken as it is, and only a file that is no object at all leaves the
defaults. So a setting of any kind reaches the start. Recent files of a wrong kind spoil their menu
only. A theme that there is not leaves the studio without a tab, and a last folder that cannot name
a file ends the start.

* `Studio.EndsWell`: an action never ends with a trouble.
* `Studio.setUp_eq`: up to the last folder, no settings stop the start.
* `Preferences.Values.Usable`: the settings are of the kinds that they should be.
* `Session.startsWithTab_iff`: when they are, and when the studio starts with one tab.
-/

namespace ScriptStudio

theorem Site.populate_eq (path : String) (site : Site) :
    ∃ screen, Site.populate path site = .ok () { site with
      explorer := site.explorer.filled site.disk path, screen := screen } := ⟨_, rfl⟩

namespace Studio

variable {α β : Type} {act : Act α} {studio : Studio}

/-! ## Actions that end well -/

/-- The action never ends with a trouble. -/
def EndsWell (act : Act α) : Prop := ∀ studio, ∃ a, act studio = .ok a (after act studio)

theorem EndsWell.bind {next : α → Act β} (hact : EndsWell act) (hnext : ∀ a, EndsWell (next a)) :
    EndsWell (act >>= next) := by
  intro studio
  obtain ⟨a, hend⟩ := hact studio
  rw [bind_of_ok hend, after_bind_of_ok hend]
  exact hnext a _

theorem EndsWell.bind_apply {act : Act Unit} (h : EndsWell act) (next : Unit → Act β)
    (studio : Studio) : (act >>= next) studio = next () (after act studio) := by
  obtain ⟨_, hend⟩ := h studio
  exact bind_of_ok hend next

theorem endsWell_modify (change : Studio → Studio) : EndsWell (modify change : Act Unit) :=
  fun _ => ⟨(), rfl⟩

theorem endsWell_get : EndsWell (get : Act Studio) := fun _ => ⟨_, rfl⟩

theorem endsWell_printLine (line : String) : EndsWell (printLine line) := fun _ => ⟨(), rfl⟩

theorem endsWell_write (change : Transcript → Transcript) : EndsWell (write change) :=
  fun _ => ⟨(), rfl⟩

theorem endsWell_loadSettings : EndsWell loadSettings := by
  refine endsWell_get.bind fun studio => ?_
  split
  · exact fun _ => ⟨(), rfl⟩
  · exact endsWell_modify _
  · exact (endsWell_printLine _).bind fun _ => endsWell_modify _

theorem endsWell_refreshRecentMenu : EndsWell refreshRecentMenu := by
  refine endsWell_get.bind fun studio => ?_
  split
  refine (endsWell_modify _).bind fun _ => ?_
  split
  · exact endsWell_printLine _
  · exact fun _ => ⟨(), rfl⟩

theorem endsWell_scheduleHighlights (ids : List Nat) : EndsWell (scheduleHighlights ids) := by
  induction ids with
  | nil => exact fun _ => ⟨(), rfl⟩
  | cons id rest ih => exact EndsWell.bind (fun _ => ⟨(), rfl⟩) fun _ => ih

variable {trouble : Trouble}

theorem isFinal_of_themeOf {setting : Datum} (h : themeOf setting = .error trouble) :
    trouble.isFinal = false := by
  cases setting with
  | text name =>
    simp only [themeOf] at h
    split at h
    · cases h
    · cases h
      rfl
  | _ =>
    cases h
    rfl

theorem endsWell_attempt_theme {rest : Studio → Theme → Act Unit} {handle : Trouble → Act Unit}
    (hrest : ∀ studio theme, EndsWell (rest studio theme))
    (hhandle : ∀ trouble, EndsWell (handle trouble)) :
    EndsWell (attempt (do
      let studio ← get
      let theme ← orTrouble (themeOf studio.theme)
      rest studio theme) handle) := by
  intro studio
  cases htheme : themeOf studio.theme with
  | ok theme =>
    have hokay : orTrouble (themeOf studio.theme) studio = .ok theme studio := by
      rw [htheme]
      rfl
    obtain ⟨_, hend⟩ := hrest studio theme studio
    have hbody : (do
        let studio ← get
        let theme ← orTrouble (themeOf studio.theme)
        rest studio theme) studio = .ok () (after (rest studio theme) studio) := by
      rw [get_bind_apply, bind_of_ok hokay]
      exact hend
    exact ⟨(), by rw [after, attempt_of_ok hbody]⟩
  | error trouble =>
    have hbody : (do
        let studio ← get
        let theme ← orTrouble (themeOf studio.theme)
        rest studio theme) studio = .error trouble studio := by
      rw [get_bind_apply, htheme]
      rfl
    obtain ⟨_, hend⟩ := hhandle trouble studio
    refine ⟨(), ?_⟩
    rw [after, attempt_of_error hbody (isFinal_of_themeOf htheme), hend]

theorem endsWell_applyTheme : EndsWell applyTheme :=
  endsWell_attempt_theme
    (fun _ _ => (endsWell_modify _).bind fun _ => endsWell_scheduleHighlights _)
    fun _ => endsWell_printLine _

theorem endsWell_newWelcomeTab : EndsWell newWelcomeTab := by
  refine endsWell_attempt_theme (fun _ theme => ?_) fun _ => ?_
  · refine EndsWell.bind (fun studio => ?_) fun id =>
      EndsWell.bind (fun _ => ⟨(), setText_ok id _ _ _⟩) fun _ => ?_
    · obtain ⟨tasks, hadd⟩ := addTab_eq theme studio
      exact ⟨_, by rw [after, hadd]⟩
    · exact fun studio => ⟨(), updateTitle_ok studio⟩
  · exact (endsWell_printLine _).bind fun _ => fun _ => ⟨(), rfl⟩

theorem endsWell_greet : EndsWell greet := by
  refine endsWell_get.bind fun studio => ?_
  split
  · exact (endsWell_write _).bind fun _ => endsWell_write _
  · exact (endsWell_write _).bind fun _ => (endsWell_write _).bind fun _ => endsWell_write _

/-! ## What the start leaves alone -/

/-- The settings, the disk and the open tabs. -/
def frame (studio : Studio) : Preferences.Values × Disk × List Nat :=
  (studio.preferences, studio.site.disk, studio.row)

theorem frame_refreshRecentMenu : Leaves frame refreshRecentMenu := by
  refine leaves_get.bind fun studio => ?_
  split
  refine Leaves.bind (leaves_modify fun _ => rfl) fun _ => ?_
  split
  · exact fun _ => rfl
  · exact fun _ => rfl

theorem frame_loadSettings (h : studio.preferences = .initial) :
    (after loadSettings studio).frame =
      (Preferences.found studio.site.disk, studio.site.disk, studio.row) := by
  have hkept : Leaves (fun studio : Studio => (studio.site.disk, studio.row)) loadSettings := by
    refine leaves_get.bind fun studio => ?_
    split
    · exact fun _ => rfl
    · exact fun _ => rfl
    · exact fun _ => rfl
  exact Prod.ext (preferences_loadSettings h) (hkept studio)

theorem frame_scheduleHighlights (ids : List Nat) : Leaves frame (scheduleHighlights ids) := by
  induction ids with
  | nil => exact fun _ => rfl
  | cons id rest ih => exact Leaves.bind (fun _ => rfl) fun _ => ih

theorem frame_applyTheme : Leaves frame applyTheme := by
  intro studio
  have hprint : ∀ trouble : Trouble, Leaves frame
      (printLine ("Error applying theme: " ++ trouble.message)) := fun _ _ => rfl
  rw [applyTheme, part_attempt _ hprint]
  refine leaves_get.bind (fun studio => Leaves.bind ?_ fun theme => ?_) studio
  · intro studio
    cases themeOf _ <;> rfl
  · exact Leaves.bind (leaves_modify fun _ => rfl) fun _ => frame_scheduleHighlights _

/-! ## The start -/

theorem showLastFolder_of_ok {folder : Option String}
    (h : lastFolder? studio.site.disk studio.lastFolder = .ok folder) :
    ∃ shown, showLastFolder studio = .ok () shown ∧ shown.frame = studio.frame := by
  rw [showLastFolder, get_bind_apply, h]
  cases folder with
  | none => exact ⟨_, rfl, rfl⟩
  | some path =>
    have hpopulate : ∃ shown, onSite (Site.populate path) studio = .ok () shown ∧
        shown.frame = studio.frame := by
      obtain ⟨screen, hfilled⟩ := Site.populate_eq path studio.site
      rw [onSite, hfilled]
      exact ⟨_, rfl, rfl⟩
    exact hpopulate

theorem showLastFolder_of_error
    (h : lastFolder? studio.site.disk studio.lastFolder = .error trouble) :
    showLastFolder studio = .error trouble studio := by
  rw [showLastFolder, get_bind_apply, h]
  rfl

/-- What comes after the settings are taken in. -/
def openUp : Act Unit := do
  showLastFolder
  newWelcomeTab
  greet
  printLine "✅ Enhanced DoroLang IDE successfully initialized!"

/-- The settings are those that the start finds, whatever they are, when it comes to the last
folder. -/
theorem setUp_eq (styles : List String) (h : studio.preferences = .initial) :
    ∃ ready : Studio, setUp styles studio = openUp ready ∧
      ready.frame = (Preferences.found studio.site.disk, studio.site.disk, studio.row) := by
  rw [setUp, (endsWell_printLine _).bind_apply, modify_bind_apply, get_bind_apply,
    (endsWell_printLine _).bind_apply, endsWell_loadSettings.bind_apply, modify_bind_apply,
    (endsWell_printLine _).bind_apply, endsWell_refreshRecentMenu.bind_apply, modify_bind_apply,
    endsWell_applyTheme.bind_apply]
  have hloaded : ∀ shown : Studio, shown.frame = studio.frame →
      (after loadSettings shown).frame =
        (Preferences.found studio.site.disk, studio.site.disk, studio.row) := by
    intro shown hframe
    rw [frame, frame, Prod.mk.injEq, Prod.mk.injEq] at hframe
    obtain ⟨hsettings, hdisk, hrow⟩ := hframe
    rw [frame_loadSettings (hsettings.trans h), hdisk, hrow]
  exact ⟨_, rfl, (frame_applyTheme _).trans ((frame_refreshRecentMenu _).trans (hloaded _ rfl))⟩

/-- A tab is made where there is a theme for it. -/
theorem row_newWelcomeTab_of_theme {theme : Theme} (h : themeOf studio.theme = .ok theme) :
    (after newWelcomeTab studio).row = studio.row ++ [studio.notebook.nextId] := by
  have hokay : orTrouble (themeOf studio.theme) studio = .ok theme studio := by
    rw [h]
    rfl
  obtain ⟨tasks, hadd⟩ := addTab_eq theme studio
  have hreport : ∀ trouble : Trouble, Leaves row (do
      printLine ("Error creating new tab: " ++ trouble.message)
      tell .error "Error" ("Failed to create tab: " ++ trouble.message)) := fun _ _ => rfl
  have hfill : ∀ id, Through (Shift fun _ => False) (do
      setText id StudioText.welcome
      updateTitle) :=
    fun id => (edits_setText id _ _).bind fun _ => tweaks_updateTitle
  rw [newWelcomeTab, newTab, part_attempt _ hreport, after_get_bind, after_bind_of_ok hokay,
    after_bind_of_ok hadd, (hfill _).row_eq]
  exact row_withTab theme studio

theorem row_newWelcomeTab_of_noTheme (h : themeOf studio.theme = .error trouble) :
    (after newWelcomeTab studio).row = studio.row :=
  congrArg (·.notebook.ids) (core_newTab_of_noTheme h _)

theorem openUp_of_error (h : lastFolder? studio.site.disk studio.lastFolder = .error trouble) :
    openUp studio = .error trouble studio := by
  simp only [openUp, bind, EStateM.bind, showLastFolder_of_error h]

theorem openUp_of_ok {folder : Option String}
    (h : lastFolder? studio.site.disk studio.lastFolder = .ok folder) :
    ∃ last : Studio, openUp studio = .ok () last ∧
      (ValidTheme studio.theme → ∃ id, last.row = studio.row ++ [id]) ∧
      (¬ ValidTheme studio.theme → last.row = studio.row) := by
  obtain ⟨shown, hshown, hframe⟩ := showLastFolder_of_ok h
  rw [frame, frame, Prod.mk.injEq, Prod.mk.injEq] at hframe
  have htheme : shown.theme = studio.theme := congrArg Preferences.Values.theme hframe.1
  have hrow : shown.row = studio.row := hframe.2.2
  have hgreet : EndsWell (do
      greet
      printLine "✅ Enhanced DoroLang IDE successfully initialized!") :=
    endsWell_greet.bind fun _ => endsWell_printLine _
  have hkept : Through (Shift fun _ => False) (do
      greet
      printLine "✅ Enhanced DoroLang IDE successfully initialized!") :=
    tweaks_greet.bind fun _ => tweaks_printLine _
  obtain ⟨_, hend⟩ := hgreet (after newWelcomeTab shown)
  rw [openUp, bind_of_ok hshown, endsWell_newWelcomeTab.bind_apply]
  refine ⟨_, hend, ?_, fun hnone => ?_⟩
  · rw [hkept.row_eq, ← htheme, ← hrow]
    rintro ⟨theme, hvalid⟩
    exact ⟨_, row_newWelcomeTab_of_theme hvalid⟩
  · rw [hkept.row_eq, ← hrow]
    cases hfound : themeOf shown.theme with
    | ok theme => exact absurd ⟨theme, htheme ▸ hfound⟩ hnone
    | error trouble => exact row_newWelcomeTab_of_noTheme hfound

end Studio

/-! ## Settings of the right kinds -/

/-- The datum is a list of texts. -/
def Datum.IsTexts (datum : Datum) : Prop := ∃ texts : List String, datum = .list (texts.map .text)

namespace Preferences

/-- The theme is one that there is, and the recent files are a list of texts. -/
structure Values.Usable (values : Values) : Prop where
  theme : Studio.ValidTheme values.theme
  recentFiles : values.recentFiles.IsTexts

theorem usable_initial : Values.initial.Usable := ⟨Studio.validTheme_name .light, [], rfl⟩

/-- A settings file that is no object leaves the defaults. -/
theorem found_cases (disk : Disk) :
    (∃ text fields, disk.readText path = .ok text ∧ Datum.ofText text = .ok (.object fields) ∧
      found disk = ⟨fieldOr fields "recent_files" (.list []),
        fieldOr fields "theme" (.text Theme.light.name),
        fieldOr fields "last_opened_folder" .null⟩) ∨
    (∀ text fields, disk.readText path = .ok text → Datum.ofText text ≠ .ok (.object fields)) ∧
      found disk = .initial := by
  cases htext : disk.readText path with
  | error error =>
    refine .inr ⟨fun _ _ heq => ?_, ?_⟩
    · cases heq
    · rw [found, read, htext]
      cases disk.exists? path <;> rfl
  | ok text =>
    have hread := read_of_readText htext
    cases hdatum : Datum.ofText text with
    | error message =>
      refine .inr ⟨fun other fields heq hobject => ?_, ?_⟩
      · cases heq
        rw [hdatum] at hobject
        cases hobject
      · rw [found, hread, hdatum]
        rfl
    | ok datum =>
      cases datum with
      | object fields =>
        refine .inl ⟨text, fields, rfl, hdatum, ?_⟩
        rw [found, hread, hdatum]
        rfl
      | _ =>
        refine .inr ⟨fun other fields heq hobject => ?_, ?_⟩
        · cases heq
          rw [hdatum] at hobject
          cases hobject
        · rw [found, hread, hdatum]
          rfl

/-- A field is of a kind where it is given, if its default is. -/
theorem fieldOr_iff {kind : Datum → Prop} {default : Datum} (hdefault : kind default)
    (fields : List (String × Datum)) (name : String) :
    kind (fieldOr fields name default) ↔ ∀ datum, fields.lookup name = some datum → kind datum := by
  unfold fieldOr
  cases fields.lookup name with
  | none => simpa using hdefault
  | some datum => simp

theorem usable_found_iff (disk : Disk) :
    (found disk).Usable ↔ ∀ text fields, disk.readText path = .ok text →
      Datum.ofText text = .ok (.object fields) →
      (∀ theme, fields.lookup "theme" = some theme → Studio.ValidTheme theme) ∧
      ∀ recent, fields.lookup "recent_files" = some recent → recent.IsTexts := by
  rcases found_cases disk with ⟨text, fields, htext, hobject, hfound⟩ | ⟨hnone, hfound⟩
  · have htheme := fieldOr_iff usable_initial.theme fields "theme"
    have hrecent := fieldOr_iff usable_initial.recentFiles fields "recent_files"
    rw [hfound]
    constructor
    · intro h text' fields' htext' hobject'
      cases htext.symm.trans htext'
      cases hobject.symm.trans hobject'
      exact ⟨htheme.mp h.theme, hrecent.mp h.recentFiles⟩
    · intro h
      obtain ⟨hthemes, hrecents⟩ := h text fields htext hobject
      exact ⟨htheme.mpr hthemes, hrecent.mpr hrecents⟩
  · rw [hfound]
    exact ⟨fun _ text fields htext hobject => absurd hobject (hnone text fields htext),
      fun _ => usable_initial⟩

end Preferences

namespace Session

open Studio

/-- The start of the studio ends without a trouble and with one open tab. -/
def StartsWithTab (session : Session) : Prop :=
  session.comesUp = true ∧
    ∃ tab, session.first.notebook.tabs = [tab]

theorem startsWithTab_of_start {session : Session} {last : Studio}
    (h : start session.styles session.blank = .ok () last) :
    session.StartsWithTab ↔ ∃ id, last.row = [id] := by
  have hup : session.comesUp = true := by
    rw [comesUp, h]
  have hrow : session.first.row = last.row := by
    have hsettle : Through (Shift fun _ => False) settle := tweaks_settle
    rw [first, after_thenSettle, hsettle.row_eq, after_of_ok h]
  rw [StartsWithTab, and_iff_right hup, ← hrow, row, Notebook.ids]
  constructor
  · rintro ⟨tab, htab⟩
    exact ⟨tab.id, by rw [htab]; rfl⟩
  · rintro ⟨id, hid⟩
    obtain ⟨tab, htab, -⟩ := List.map_eq_singleton_iff.mp hid
    exact ⟨tab, htab⟩

theorem start_eq (session : Session) :
    ∃ ready : Studio, ready.preferences = Preferences.found session.disk ∧
      ready.site.disk = session.disk ∧ ready.row = [] ∧
      (∀ last, openUp ready = .ok () last →
        start session.styles session.blank = .ok () last) ∧
      ∀ trouble last, openUp ready = .error trouble last → session.comesUp = false := by
  have hinitial : (after (printLine "✅ Modern fonts set (Segoe UI, Consolas).")
      session.blank).preferences = .initial := rfl
  obtain ⟨ready, hset, hframe⟩ := setUp_eq session.styles hinitial
  rw [frame, Prod.mk.injEq, Prod.mk.injEq] at hframe
  refine ⟨ready, hframe.1, hframe.2.1, hframe.2.2, fun last hend => ?_, fun trouble last hend => ?_⟩
  · rw [start, bind_of_ok (printLine_ok _ _)]
    exact attempt_of_ok (hset.trans hend) _
  · rw [comesUp, start, bind_of_ok (printLine_ok _ _)]
    have hfailed := hset.trans hend
    by_cases hfinal : trouble.isFinal = true
    · simp only [attempt, hfailed, hfinal, if_true]
    · rw [attempt_of_error hfailed (Bool.eq_false_iff.mpr hfinal)]
      rfl

/-- In every session, on whatever disk: the settings are those of the settings file if that is an
object, and the defaults otherwise. They are of the right kinds exactly if the file gives no theme
that there is not and no recent files that are no list of texts. The studio starts with one open tab
exactly if there is the theme and the last folder can be looked up. -/
theorem startsWithTab_iff (session : Session) :
    let values := Preferences.found session.disk
    (after loadSettings session.blank).preferences = values ∧
    (values.Usable ↔ ∀ text fields, session.disk.readText Preferences.path = .ok text →
      Datum.ofText text = .ok (.object fields) →
      (∀ theme, fields.lookup "theme" = some theme → ValidTheme theme) ∧
      ∀ recent, fields.lookup "recent_files" = some recent → recent.IsTexts) ∧
    (session.StartsWithTab ↔ ValidTheme values.theme ∧
      ∃ folder, lastFolder? session.disk values.lastFolder = .ok folder) := by
  refine ⟨preferences_loadSettings rfl, Preferences.usable_found_iff session.disk, ?_⟩
  obtain ⟨ready, hsettings, hdisk, hrow, hup, hdown⟩ := start_eq session
  have htheme : ready.theme = (Preferences.found session.disk).theme :=
    congrArg Preferences.Values.theme hsettings
  have hfolder : lastFolder? ready.site.disk ready.lastFolder =
      lastFolder? session.disk (Preferences.found session.disk).lastFolder := by
    rw [hdisk, ← hsettings]
    rfl
  cases hlooked : lastFolder? session.disk (Preferences.found session.disk).lastFolder with
  | error trouble =>
    have hfailed := hdown _ _ (openUp_of_error (hfolder.trans hlooked))
    refine ⟨fun h => ?_, fun h => ?_⟩
    · rw [StartsWithTab, hfailed] at h
      exact absurd h.1 Bool.false_ne_true
    · obtain ⟨_, _, heq⟩ := h
      cases heq
  | ok folder =>
    obtain ⟨last, hend, hmade, hnone⟩ := openUp_of_ok (hfolder.trans hlooked)
    rw [startsWithTab_of_start (hup last hend), ← htheme]
    constructor
    · rintro ⟨id, hid⟩
      refine ⟨?_, folder, rfl⟩
      by_contra hinvalid
      rw [hnone hinvalid, hrow] at hid
      cases hid
    · rintro ⟨hvalid, -⟩
      obtain ⟨id, hid⟩ := hmade hvalid
      exact ⟨id, by rw [hid, hrow]; rfl⟩

/-- The settings file names a theme that there is not. -/
def withUnknownTheme : Session where
  styles := ["clam"]
  disk := ⟨[([Preferences.path],
    .file (Text.encodeUtf8 "\x7b\"theme\": \"blue\"\x7d".toList))]⟩
  replies := []
  isDemo := false
  gestures := []

/-- There is no such theme, and no tab. -/
theorem not_startsWithTab_unknownTheme :
    ¬ (after loadSettings withUnknownTheme.blank).preferences.Usable ∧
      ¬ withUnknownTheme.StartsWithTab := by
  constructor
  · intro h
    obtain ⟨theme, htheme⟩ := h.theme
    have hnone :
        (themeOf (after loadSettings withUnknownTheme.blank).preferences.theme).toOption =
          none := by
      decide +kernel
    rw [htheme] at hnone
    cases hnone
  · rintro ⟨-, tab, htab⟩
    have hnone : withUnknownTheme.first.notebook.tabs.isEmpty = true := by
      decide +kernel
    rw [htab] at hnone
    cases hnone

end Session

end ScriptStudio
