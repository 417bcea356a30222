import ScriptStudio.Proofs.LastTab

/-!
# Opening what cannot be read

A tab is made and selected before its file is read, and nothing takes it away when the file turns
out to be missing, a directory or no text. So a failed opening leaves an empty tab without a file.
Recent files are remembered only after the file was read.

* `Studio.core_newTab_of_failed`: a tab that cannot be filled stays.
* `Studio.KeepsTabs`: tabs, editors and recent files are as before.
* `Studio.keepsTabs_openFile_iff`: when this is so after a failed opening, and what else there is.
-/

namespace ScriptStudio

/-- A new tab at the end, which is then selected. -/
theorem Notebook.select_add (notebook : Notebook) (label : String) :
    (notebook.add label).select notebook.nextId =
      ⟨notebook.tabs ++ [⟨notebook.nextId, label⟩], some notebook.nextId, notebook.nextId + 1⟩ := by
  have hthere : (notebook.add label).ids.contains notebook.nextId = true := by
    rw [ids_add, List.contains_iff_mem]
    exact List.mem_append_right _ List.mem_cons_self
  rw [select, if_pos hthere]
  rfl

namespace Studio

variable {studio : Studio} {name : FileName}

/-! ## Tabs that cannot be filled -/

theorem core_reportUnmade (trouble : Trouble) : Leaves core (do
    printLine ("Error creating new tab: " ++ trouble.message)
    tell .error "Error" ("Failed to create tab: " ++ trouble.message)) :=
  Leaves.bind (core_onSite _) fun _ => core_onSite _

/-- Without a theme no tab is made. -/
theorem core_newTab_of_noTheme {trouble : Trouble} (htheme : themeOf studio.theme = .error trouble)
    (fill : Nat → Act Unit) : (after (newTab fill) studio).core = studio.core := by
  have hfailed : orTrouble (themeOf studio.theme) studio = .error trouble studio := by
    rw [htheme]
    rfl
  rw [newTab, part_attempt _ core_reportUnmade, after_get_bind, after_bind_of_error hfailed]

variable {theme : Theme}

/-- A tab that cannot be filled stays as it was made. -/
theorem core_newTab_of_failed (htheme : themeOf studio.theme = .ok theme) {fill : Nat → Act Unit}
    {trouble : Trouble} (hfill : ∀ made : Studio, made.site = studio.site →
      fill studio.notebook.nextId made = .error trouble made) :
    (after (newTab fill) studio).core = (studio.withTab theme).core := by
  have hokay : orTrouble (themeOf studio.theme) studio = .ok theme studio := by
    rw [htheme]
    rfl
  obtain ⟨tasks, hadd⟩ := addTab_eq theme studio
  have hfailed := hfill { studio.withTab theme with tasks := tasks } rfl
  rw [newTab, part_attempt _ core_reportUnmade, after_get_bind, after_bind_of_ok hokay,
    after_bind_of_ok hadd, after_bind_of_error hfailed]
  rfl

theorem themeOf_of_toOption {setting : Datum} (h : (themeOf setting).toOption = some theme) :
    themeOf setting = .ok theme := by
  cases hfound : themeOf setting with
  | ok found =>
    rw [hfound] at h
    exact congrArg Except.ok (Option.some.inj h)
  | error trouble =>
    rw [hfound] at h
    cases h

theorem readInto_of_unreadable {error : DiskError}
    (h : studio.site.disk.readText name.path = .error error) (id : Nat) (intake : Intake) :
    readInto id name intake studio = .error (.disk error) studio := by
  rw [readInto, get_bind_apply, h]
  rfl

/-! ## Opening -/

/-- Tabs, the selected tab, editors and recent files are the same. -/
structure KeepsTabs (before after : Studio) : Prop where
  tabs : after.notebook.tabs = before.notebook.tabs
  selected : after.notebook.selected = before.notebook.selected
  editors : after.editors = before.editors
  recentFiles : after.recentFiles = before.recentFiles

theorem keepsTabs_of_core {before after : Studio} (h : after.core = before.core) :
    KeepsTabs before after where
  tabs := congrArg (·.notebook.tabs) h
  selected := congrArg (·.notebook.selected) h
  editors := congrArg Core.editors h
  recentFiles := congrArg (·.settings.recentFiles) h

theorem core_openFile_of_shown {id : Nat} (h : studio.tabOf? name = some id) :
    (after (openFile name) studio).core =
      core { studio with notebook := studio.notebook.select id } := by
  rw [openFile, after_get_bind]
  simp only [h]
  obtain ⟨tasks, hselect⟩ := changeNotebook_eq (·.select id) studio
  rw [selectTab, after_of_ok hselect]
  rfl

/-- Where no tab shows the file, opening is making a tab for it. -/
theorem core_openFile_of_new (h : studio.tabOf? name = none) :
    (after (openFile name) studio).core =
      (after (newTab fun id => readInto id name) studio).core := by
  have hstatus : ∀ _ : Unit, Leaves core (setStatus ("File opened: " ++ name.base)) :=
    fun _ => leaves_modify fun _ => rfl
  rw [openFile, after_get_bind]
  simp only [h]
  exact part_bind _ hstatus studio

theorem keepsTabs_openFile_of_shown {id : Nat} (h : studio.tabOf? name = some id) :
    KeepsTabs studio (after (openFile name) studio) ↔
      studio.notebook.select id = studio.notebook := by
  have hcore := core_openFile_of_shown h
  have hnotebook : (after (openFile name) studio).notebook = studio.notebook.select id :=
    congrArg Core.notebook hcore
  constructor
  · intro hkept
    have hselected := hkept.selected
    rw [hnotebook] at hselected
    unfold Notebook.select at hselected ⊢
    split
    · rename_i hthere
      rw [if_pos hthere] at hselected
      dsimp only at hselected
      rw [hselected]
    · rfl
  · intro hsame
    refine keepsTabs_of_core (hcore.trans ?_)
    rw [hsame]

theorem openFile_of_unreadable {error : DiskError}
    (hunreadable : studio.site.disk.readText name.path = .error error)
    (hnew : studio.tabOf? name = none) (htheme : themeOf studio.theme = .ok theme) :
    (after (openFile name) studio).notebook =
        ⟨studio.notebook.tabs ++ [⟨studio.notebook.nextId, "Untitled *"⟩],
          some studio.notebook.nextId, studio.notebook.nextId + 1⟩ ∧
      (after (openFile name) studio).editors =
        studio.editors ++ [(studio.notebook.nextId, { theme := theme })] ∧
      (after (openFile name) studio).recentFiles = studio.recentFiles := by
  have hcore := core_openFile_of_new hnew
  rw [core_newTab_of_failed htheme fun made hsite =>
    readInto_of_unreadable (hsite ▸ hunreadable) _ _] at hcore
  have hnotebook : (after (openFile name) studio).notebook = (studio.withTab theme).notebook :=
    congrArg Core.notebook hcore
  exact ⟨hnotebook.trans (Notebook.select_add _ _), congrArg Core.editors hcore,
    congrArg (·.settings.recentFiles) hcore⟩

/-- A file that cannot be read is opened. Recent files stay as they are. If a tab shows the file,
that tab is selected and nothing else changes. Otherwise, as long as there is a theme to make a tab
with, an empty tab without a file comes after all others and is selected. So tabs, editors and
recent files are as before exactly if the file was in view already, or no tab can be made at all. -/
theorem keepsTabs_openFile_iff (studio : Studio) (name : FileName) {error : DiskError}
    (hunreadable : studio.site.disk.readText name.path = .error error) :
    let opened := after (openFile name) studio
    opened.recentFiles = studio.recentFiles ∧
    (∀ id, studio.tabOf? name = some id →
      opened.notebook = studio.notebook.select id ∧ opened.editors = studio.editors) ∧
    (studio.tabOf? name = none → ∀ theme, themeOf studio.theme = .ok theme →
      opened.notebook.tabs = studio.notebook.tabs ++ [⟨studio.notebook.nextId, "Untitled *"⟩] ∧
      opened.notebook.selected = some studio.notebook.nextId ∧
      opened.editors = studio.editors ++ [(studio.notebook.nextId, { theme := theme })]) ∧
    (KeepsTabs studio opened ↔
      (∃ id, studio.tabOf? name = some id ∧ studio.notebook.select id = studio.notebook) ∨
      studio.tabOf? name = none ∧ ¬ ValidTheme studio.theme) := by
  intro opened
  cases htab : studio.tabOf? name with
  | some id =>
    have hcore : opened.core = _ := core_openFile_of_shown htab
    refine ⟨congrArg (·.settings.recentFiles) hcore, fun other heq => ?_, fun hnone => ?_, ?_⟩
    · cases heq
      exact ⟨congrArg Core.notebook hcore, congrArg Core.editors hcore⟩
    · cases hnone
    · simpa using keepsTabs_openFile_of_shown htab
  | none =>
    cases htheme : themeOf studio.theme with
    | error trouble =>
      have hcore : opened.core = _ := core_openFile_of_new htab
      have hkept := keepsTabs_of_core (hcore.trans (core_newTab_of_noTheme htheme _))
      refine ⟨hkept.recentFiles, fun _ heq => ?_, fun _ theme heq => ?_,
        fun _ => .inr ⟨rfl, ?_⟩, fun _ => hkept⟩
      · cases heq
      · cases heq
      · rintro ⟨theme, hvalid⟩
        rw [htheme] at hvalid
        cases hvalid
    | ok theme =>
      obtain ⟨hnotebook, heditors, hrecent⟩ := openFile_of_unreadable hunreadable htab htheme
      refine ⟨hrecent, fun _ heq => ?_, fun _ found heq => ?_, fun hkept => ?_, ?_⟩
      · cases heq
      · cases heq
        exact ⟨congrArg Notebook.tabs hnotebook, congrArg Notebook.selected hnotebook, heditors⟩
      · have htabs : opened.notebook.tabs = studio.notebook.tabs := hkept.tabs
        rw [show opened.notebook = _ from hnotebook] at htabs
        exact absurd htabs (by simp)
      · rintro (⟨_, heq, _⟩ | ⟨_, hnone⟩)
        · cases heq
        · exact absurd ⟨theme, htheme⟩ hnone

end Studio

namespace Session

open Studio

/-- The studio is started where there are a directory and a file that is no text. -/
def amongUnreadable : Session where
  styles := ["clam"]
  disk := ⟨[(["d"], .directory), (["b.doro"], .file [0x73, 0xff])]⟩
  replies := []
  isDemo := false
  gestures := []

theorem keepsTabs_openFile_noText :
    let studio := amongUnreadable.studio
    let opened := after (openFile (.typed "b.doro")) studio
    studio.site.disk.readText "b.doro" = .error (.undecodable ⟨.start, 0xff, 1, 1⟩) ∧
      opened.recentFiles = studio.recentFiles ∧
      opened.notebook.tabs = studio.notebook.tabs ++ [⟨2, "Untitled *"⟩] ∧
      opened.notebook.selected = some 2 ∧
      opened.editors = studio.editors ++ [(2, { theme := .light })] ∧
      ¬ KeepsTabs studio opened := by
  have hunreadable : amongUnreadable.studio.site.disk.readText "b.doro" =
      .error (.undecodable ⟨.start, 0xff, 1, 1⟩) := by
    decide +kernel
  have hnew : amongUnreadable.studio.tabOf? (.typed "b.doro") = none := by
    decide +kernel
  have hlight : (themeOf amongUnreadable.studio.theme).toOption = some .light := by
    decide +kernel
  have hnext : amongUnreadable.studio.notebook.nextId = 2 := by
    decide +kernel
  -- from here on the start need not be gone through any more
  generalize amongUnreadable.studio = studio at hunreadable hnew hlight hnext ⊢
  have htheme := themeOf_of_toOption hlight
  obtain ⟨hrecent, -, hmade, hiff⟩ := keepsTabs_openFile_iff studio (.typed "b.doro") hunreadable
  obtain ⟨htabs, hselected, heditors⟩ := hmade hnew .light htheme
  rw [hnext] at htabs hselected heditors
  refine ⟨hunreadable, hrecent, htabs, hselected, heditors, fun hkept => ?_⟩
  rcases hiff.mp hkept with ⟨id, hshown, -⟩ | ⟨-, hnone⟩
  · rw [hnew] at hshown
    cases hshown
  · exact hnone ⟨.light, htheme⟩

/-- A directory is opened, and there is a second tab. -/
theorem not_keepsTabs_openFile_directory :
    amongUnreadable.studio.site.disk.readText "d" = .error (.refused .isDirectory "d" none) ∧
      ¬ KeepsTabs amongUnreadable.studio
        (after (openFile (.typed "d")) amongUnreadable.studio) := by
  refine ⟨by decide +kernel, fun hkept => ?_⟩
  have htabs := congrArg List.length hkept.tabs
  exact absurd htabs (by decide +kernel)

end Session

end ScriptStudio
