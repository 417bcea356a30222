import Mathlib.Logic.Relation
import ScriptStudio.Studio.Session

/-!
# What actions change

Every action is a chain of elementary changes of the studio, however it ends. The changes come in
kinds, and a wider kind takes in the narrower one. What every change of a kind keeps, every action
of that kind keeps, so that an invariant is looked at once for each elementary change and never for
the actions.

* `Studio.Through`: an action is a chain of changes.
* `Studio.Tweak`: labels, marks, colours, and all that no tab, file, window or setting depends on.
* `Studio.Edit`: texts besides, the selected tab and the windows other than those for finding.
* `Studio.Aside`: a part that the tasks leave alone.
* The rest of the module goes through the actions that only tweak and those that only edit.
-/

namespace ScriptStudio

/-- What a user works on in an editor. -/
structure Work where
  file : Option FileName
  text : List Char
  cursor : Nat
  selection : Option (Nat × Nat)
deriving DecidableEq

/-- The work in an editor. -/
def Editor.work (editor : Editor) : Work :=
  ⟨editor.file, editor.buffer.text, editor.buffer.cursor, editor.buffer.selection⟩

/-- The window is not for finding, and if it is for the settings, it shows the theme in force. -/
def WindowBody.Neutral (theme : Datum) : WindowBody → Prop
  | .templates _ => True
  | .settings chosen => chosen = theme
  | .find _ _ _ => False
  | .completions _ _ _ => True

/-- What tabs, files, windows and settings depend on. -/
structure Core where
  notebook : Notebook
  editors : List (Nat × Editor)
  closedEditors : List (Nat × Editor)
  windows : List Window
  nextWindow : Nat
  settings : Preferences.Values
  recentMenu : List RecentItem

namespace Studio

/-- The core of a studio. -/
def core (studio : Studio) : Core where
  notebook := studio.notebook
  editors := studio.editors
  closedEditors := studio.closedEditors
  windows := studio.windows
  nextWindow := studio.nextWindow
  settings := studio.preferences
  recentMenu := studio.recentMenu

/-- The studio with another editor of a number. -/
def withEditor (id : Nat) (change : Editor → Editor) (studio : Studio) : Studio :=
  { studio with
    editors := changeIn id change studio.editors
    closedEditors := changeIn id change studio.closedEditors }

theorem map_fst_changeIn (id : Nat) (change : Editor → Editor) (editors : List (Nat × Editor)) :
    (changeIn id change editors).map (·.1) = editors.map (·.1) := by
  rw [changeIn, List.map_map]
  rfl

/-- The current editor is that of the selected tab. -/
theorem selected_and_mem_of_current? {studio : Studio} {current : Nat × Editor}
    (h : studio.current? = some current) :
    studio.notebook.selected = some current.1 ∧ current ∈ studio.editors := by
  obtain ⟨id, hid, hlookup⟩ := Option.bind_eq_some_iff.mp h
  obtain ⟨found, hfound, rfl⟩ := Option.map_eq_some_iff.mp hlookup
  obtain ⟨before, after, heditors, _⟩ := List.lookup_eq_some_iff.mp hfound
  refine ⟨hid, ?_⟩
  rw [heditors]
  exact List.mem_append_right _ List.mem_cons_self

/-- The studio in the colours of a theme. -/
def painted (theme : Theme) (studio : Studio) : Studio :=
  { studio with
    paintedTheme := some theme
    editors := studio.editors.map fun (id, editor) => (id, { editor with theme }) }

/-- The studio with a new tab, which is selected. -/
def withTab (theme : Theme) (studio : Studio) : Studio :=
  { studio with
    notebook := (studio.notebook.add "Untitled *").select studio.notebook.nextId
    editors := studio.editors ++ [(studio.notebook.nextId, { theme })] }

/-- The studio without a tab. -/
def withoutTab (id : Nat) (studio : Studio) : Studio :=
  { studio with
    notebook := studio.notebook.forget id
    editors := studio.editors.filter (·.1 != id)
    closedEditors := studio.closedEditors ++ studio.editors.filter (·.1 == id) }

/-! ## Elementary changes -/

/-- A change that no text, file, window or setting shows. -/
inductive Tweak (studio : Studio) : Studio → Prop where
  | besides {studio' : Studio} (h : studio'.core = studio.core) : Tweak studio studio'
  | label (id : Nat) (label : String) :
    Tweak studio { studio with notebook := studio.notebook.relabel id label }
  | mark (id : Nat) {change : Editor → Editor}
    (h : ∀ editor, (change editor).work = editor.work) :
    Tweak studio (studio.withEditor id change)
  | paint (theme : Theme) : Tweak studio (studio.painted theme)

/-- A change that leaves the tabs, their files and the settings as they are. -/
inductive Edit (studio : Studio) : Studio → Prop where
  | tweak {studio' : Studio} (h : Tweak studio studio') : Edit studio studio'
  | change (id : Nat) {change : Editor → Editor}
    (h : ∀ editor, (change editor).file = editor.file) : Edit studio (studio.withEditor id change)
  | select (id : Nat) : Edit studio { studio with notebook := studio.notebook.select id }
  | openWindow {body : WindowBody} (h : body.Neutral studio.theme) :
    Edit studio { studio with
      windows := studio.windows ++ [⟨studio.nextWindow, body⟩]
      nextWindow := studio.nextWindow + 1 }
  | closeWindow (id : Nat) :
    Edit studio { studio with windows := studio.windows.filter (·.id != id) }

/-- Changes of a kind that takes in all tweaks. -/
class Tweaks (step : Studio → Studio → Prop) : Prop where
  of_tweak : ∀ {studio studio' : Studio}, Tweak studio studio' → step studio studio'

/-- Changes of a kind that takes in all edits. -/
class Edits (step : Studio → Studio → Prop) : Prop where
  of_edit : ∀ {studio studio' : Studio}, Edit studio studio' → step studio studio'

instance : Tweaks Tweak := ⟨id⟩

instance : Edits Edit := ⟨id⟩

instance (step : Studio → Studio → Prop) [Edits step] : Tweaks step :=
  ⟨fun h => Edits.of_edit (.tweak h)⟩

/-! ## Rules -/

/-- The studio that an action leaves, with a result or with a trouble. -/
def after {α : Type} (act : Act α) (studio : Studio) : Studio :=
  match act studio with
  | .ok _ studio => studio
  | .error _ studio => studio

/-- However it ends, the action leaves a part of the studio alone. -/
def Leaves {α γ : Type} (part : Studio → γ) (act : Act α) : Prop :=
  ∀ studio, part (after act studio) = part studio

/-- However it ends, the action is a chain of changes. -/
def Through {α : Type} (step : Studio → Studio → Prop) (act : Act α) : Prop :=
  ∀ studio, Relation.ReflTransGen step studio (after act studio)

variable {α β γ : Type} {part : Studio → γ} {step : Studio → Studio → Prop} {act : Act α}

theorem after_of_ok {studio studio' : Studio} {a : α} (h : act studio = .ok a studio') :
    after act studio = studio' := by
  rw [after, h]

theorem after_of_error {studio studio' : Studio} {trouble : Trouble}
    (h : act studio = .error trouble studio') : after act studio = studio' := by
  rw [after, h]

theorem bind_of_ok {studio studio' : Studio} {a : α} (h : act studio = .ok a studio')
    (next : α → Act β) : (act >>= next) studio = next a studio' := by
  simp only [bind, EStateM.bind, h]

theorem attempt_of_ok {studio studio' : Studio} {a : α} (h : act studio = .ok a studio')
    (handle : Trouble → Act α) : attempt act handle studio = .ok a studio' := by
  simp only [attempt, h]

theorem attempt_of_error {studio studio' : Studio} {trouble : Trouble}
    (h : act studio = .error trouble studio') (hfinal : trouble.isFinal = false)
    (handle : Trouble → Act α) : attempt act handle studio = handle trouble studio' := by
  simp only [attempt, h, hfinal, Bool.false_eq_true, if_false]

theorem after_bind_of_ok {studio studio' : Studio} {a : α} (h : act studio = .ok a studio')
    (next : α → Act β) : after (act >>= next) studio = after (next a) studio' := by
  rw [after, bind_of_ok h, after]

theorem after_bind_of_error {studio studio' : Studio} {trouble : Trouble}
    (h : act studio = .error trouble studio') (next : α → Act β) :
    after (act >>= next) studio = studio' := by
  simp only [after, bind, EStateM.bind, h]

theorem get_bind_apply (next : Studio → Act β) (studio : Studio) :
    (get >>= next) studio = next studio studio := rfl

theorem modify_bind_apply (change : Studio → Studio) (next : PUnit → Act β) (studio : Studio) :
    (modify change >>= next) studio = next () (change studio) := rfl

/-- A look at the studio changes nothing. -/
theorem after_get_bind (next : Studio → Act β) (studio : Studio) :
    after (get >>= next) studio = after (next studio) studio := rfl

theorem after_modify_bind (change : Studio → Studio) (next : PUnit → Act β) (studio : Studio) :
    after (modify change >>= next) studio = after (next ()) (change studio) := rfl

theorem part_bind (act : Act α) {next : α → Act β} (hnext : ∀ a, Leaves part (next a))
    (studio : Studio) : part (after (act >>= next) studio) = part (after act studio) := by
  cases hend : act studio with
  | ok a studio' => rw [after_bind_of_ok hend, after_of_ok hend, hnext a studio']
  | error trouble studio' => rw [after_bind_of_error hend, after_of_error hend]

theorem part_attempt (act : Act α) {handle : Trouble → Act α}
    (hhandle : ∀ trouble, Leaves part (handle trouble)) (studio : Studio) :
    part (after (attempt act handle) studio) = part (after act studio) := by
  cases hend : act studio with
  | ok a studio' => simp only [after, attempt, hend]
  | error trouble studio' =>
    rw [after_of_error hend, ← hhandle trouble studio']
    simp only [after, attempt, hend]
    by_cases hfinal : trouble.isFinal = true
    · rw [if_pos hfinal]
      exact (hhandle trouble studio').symm
    · rw [if_neg hfinal]

theorem Leaves.bind {next : α → Act β} (hact : Leaves part act)
    (hnext : ∀ a, Leaves part (next a)) : Leaves part (act >>= next) :=
  fun studio => (part_bind act hnext studio).trans (hact studio)

theorem leaves_modify {change : Studio → Studio}
    (h : ∀ studio, part (change studio) = part studio) :
    Leaves part (modify change : Act Unit) := h

theorem leaves_get : Leaves part (get : Act Studio) := fun _ => rfl

/-- What every change keeps, a chain of changes keeps. -/
theorem survives_chain (holds : Studio → Prop)
    (hstep : ∀ studio studio', step studio studio' → holds studio → holds studio')
    {studio studio' : Studio} (hchain : Relation.ReflTransGen step studio studio')
    (h : holds studio) : holds studio' := by
  induction hchain with
  | refl => exact h
  | tail _ hlast ih => exact hstep _ _ hlast ih

theorem Through.leaves (h : Through step act)
    (hstep : ∀ studio studio', step studio studio' → part studio' = part studio) :
    Leaves part act := by
  intro studio
  exact survives_chain (fun other => part other = part studio)
    (fun _ _ hlast hfirst => (hstep _ _ hlast).trans hfirst) (h studio) rfl

theorem chain_bind {origin studio : Studio} {next : α → Act β}
    (hact : Relation.ReflTransGen step origin (after act studio))
    (hnext : ∀ a, Through step (next a)) :
    Relation.ReflTransGen step origin (after (act >>= next) studio) := by
  cases hend : act studio with
  | ok a studio' =>
    rw [after_of_ok hend] at hact
    rw [after_bind_of_ok hend]
    exact hact.trans (hnext a studio')
  | error trouble studio' =>
    rw [after_of_error hend] at hact
    rwa [after_bind_of_error hend]

theorem chain_attempt {origin studio : Studio} {handle : Trouble → Act α}
    (hact : Relation.ReflTransGen step origin (after act studio))
    (hhandle : ∀ trouble, Through step (handle trouble)) :
    Relation.ReflTransGen step origin (after (attempt act handle) studio) := by
  cases hend : act studio with
  | ok a studio' =>
    rw [after_of_ok hend] at hact
    rwa [after_of_ok (attempt_of_ok hend handle)]
  | error trouble studio' =>
    rw [after_of_error hend] at hact
    -- A final trouble is passed on, any other one is handled.
    by_cases hfinal : trouble.isFinal = true
    · simpa only [after, attempt, hend, if_pos hfinal] using hact
    · rw [after, attempt_of_error hend (Bool.eq_false_iff.mpr hfinal)]
      exact hact.trans (hhandle trouble studio')

theorem Through.bind {next : α → Act β} (hact : Through step act)
    (hnext : ∀ a, Through step (next a)) : Through step (act >>= next) :=
  fun studio => chain_bind (hact studio) hnext

theorem Through.attempt {handle : Trouble → Act α} (hact : Through step act)
    (hhandle : ∀ trouble, Through step (handle trouble)) : Through step (attempt act handle) :=
  fun studio => chain_attempt (hact studio) hhandle

theorem through_modify {change : Studio → Studio} (h : ∀ studio, step studio (change studio)) :
    Through step (modify change : Act Unit) := fun studio => .single (h studio)

theorem through_pure (a : α) : Through step (pure a : Act α) := fun _ => .refl

theorem through_throw (trouble : Trouble) : Through step (throw trouble : Act α) := fun _ => .refl

theorem through_get : Through step (get : Act Studio) := fun _ => .refl

theorem through_orTrouble (result : Except Trouble α) : Through step (orTrouble result) := by
  cases result with
  | ok a => exact through_pure a
  | error trouble => exact through_throw trouble

theorem through_currentId : Through step currentId := by
  refine through_get.bind fun studio => ?_
  split
  · exact through_pure _
  · exact through_throw _

theorem through_resolve (id : Nat) (written : String) : Through step (resolve id written) := by
  refine through_get.bind fun studio => ?_
  split
  · exact through_throw _
  · exact through_orTrouble _

theorem Through.discard (hact : Through step act) : Through step (discard act) :=
  hact.bind fun _ => through_pure _

/-! ## Changes of the notebook -/

theorem changeNotebook_eq (change : Notebook → Notebook) (studio : Studio) :
    ∃ tasks, changeNotebook change studio =
      .ok () { studio with notebook := change studio.notebook, tasks := tasks } := by
  rw [changeNotebook, get_bind_apply, modify_bind_apply]
  split
  · exact ⟨_, rfl⟩
  · exact ⟨_, rfl⟩

theorem addTab_eq (theme : Theme) (studio : Studio) :
    ∃ tasks, addTab theme studio =
      .ok studio.notebook.nextId { studio.withTab theme with tasks := tasks } := by
  have hschedule : scheduleHighlight studio.notebook.nextId studio =
      .ok () (after (scheduleHighlight studio.notebook.nextId) studio) := rfl
  rw [addTab, get_bind_apply, bind_of_ok hschedule]
  obtain ⟨_, hadd⟩ := changeNotebook_eq (·.add "Untitled *")
    (after (scheduleHighlight studio.notebook.nextId) studio)
  rw [bind_of_ok hadd, modify_bind_apply]
  obtain ⟨tasks, hselect⟩ := changeNotebook_eq (·.select studio.notebook.nextId) _
  exact ⟨tasks, bind_of_ok hselect _⟩

theorem dropTab_eq (id : Nat) (studio : Studio) :
    ∃ tasks, dropTab id studio = .ok () { studio.withoutTab id with tasks := tasks } := by
  obtain ⟨tasks, hforget⟩ := changeNotebook_eq (·.forget id) studio
  exact ⟨tasks, bind_of_ok hforget _⟩

theorem changeNotebook_relabel (id : Nat) (label : String) (studio : Studio) :
    changeNotebook (·.relabel id label) studio =
      .ok () { studio with notebook := studio.notebook.relabel id label } := by
  have hsame : (studio.notebook.selected != (studio.notebook.relabel id label).selected) = false :=
    bne_self_eq_false _
  rw [changeNotebook, get_bind_apply, modify_bind_apply, hsame]
  rfl

theorem noAttribute_of_themeTitle {theme : Datum} {trouble : Trouble}
    (h : themeTitle theme = .error trouble) :
    ∃ typeName, trouble = .noAttribute typeName "capitalize" := by
  cases theme <;> cases h <;> exact ⟨_, rfl⟩

theorem updateTitle_eq (studio : Studio) :
    ∃ site title notebook, updateTitle studio =
        .ok () { studio with site := site, title := title, notebook := notebook } ∧
      site.disk = studio.site.disk ∧
      (notebook = studio.notebook ∨ ∃ id label, notebook = studio.notebook.relabel id label) := by
  unfold updateTitle attempt
  rw [get_bind_apply]
  cases hcurrent : studio.current? with
  | none =>
    cases htheme : themeTitle studio.theme with
    | ok theme => exact ⟨_, _, _, rfl, rfl, .inl rfl⟩
    | error trouble =>
      obtain ⟨typeName, rfl⟩ := noAttribute_of_themeTitle htheme
      exact ⟨_, _, _, rfl, rfl, .inl rfl⟩
  | some current =>
    dsimp only
    rw [bind_of_ok (changeNotebook_relabel _ _ _)]
    cases htheme : themeTitle studio.theme with
    | ok theme => exact ⟨_, _, _, rfl, rfl, .inr ⟨_, _, rfl⟩⟩
    | error trouble =>
      obtain ⟨typeName, rfl⟩ := noAttribute_of_themeTitle htheme
      exact ⟨_, _, _, rfl, rfl, .inr ⟨_, _, rfl⟩⟩

theorem through_changeNotebook [Tweaks step] {change : Notebook → Notebook}
    (h : ∀ studio : Studio, step studio { studio with notebook := change studio.notebook }) :
    Through step (changeNotebook change) := by
  intro studio
  obtain ⟨tasks, hend⟩ := changeNotebook_eq change studio
  rw [after_of_ok hend]
  exact .tail (.single (h studio)) (Tweaks.of_tweak (.besides rfl))

/-! ## Actions that only tweak -/

theorem core_onSite (act : SiteAct α) (studio : Studio) :
    (after (onSite act) studio).core = studio.core := by
  unfold after onSite
  cases act studio.site with
  | ok a site => rfl
  | error trouble site => rfl

section Tweaks

variable [Tweaks step]

theorem tweaks_modify {change : Studio → Studio}
    (h : ∀ studio, (change studio).core = studio.core) :
    Through step (modify change : Act Unit) :=
  through_modify fun studio => Tweaks.of_tweak (.besides (h studio))

theorem tweaks_onSite (act : SiteAct α) : Through step (onSite act) :=
  fun studio => .single (Tweaks.of_tweak (.besides (core_onSite act studio)))

theorem tweaks_onMachine (act : Exec α) : Through step (onMachine act) :=
  fun _ => .single (Tweaks.of_tweak (.besides rfl))

theorem tweaks_changeEditor (id : Nat) {change : Editor → Editor}
    (h : ∀ editor, (change editor).work = editor.work) :
    Through step (changeEditor id change) :=
  through_modify fun _ => Tweaks.of_tweak (.mark id h)

theorem tweaks_printLine (line : String) : Through step (printLine line) := tweaks_onSite _

theorem printLine_ok (line : String) (studio : Studio) :
    printLine line studio = .ok () (after (printLine line) studio) := rfl

theorem tweaks_tell (kind : BoxKind) (title message : String) :
    Through step (tell kind title message) :=
  tweaks_onSite _

theorem tweaks_askPath (kind : BoxKind) (title : String) : Through step (askPath kind title) := by
  refine (tweaks_onSite _).bind fun reply => ?_
  split <;> exact through_pure _

theorem tweaks_write (change : Transcript → Transcript) : Through step (write change) :=
  tweaks_modify fun _ => rfl

theorem tweaks_setStatus (status : String) : Through step (setStatus status) :=
  tweaks_modify fun _ => rfl

theorem tweaks_enqueue (task : Task) : Through step (enqueue task) := tweaks_modify fun _ => rfl

theorem tweaks_scheduleHighlight (id : Nat) : Through step (scheduleHighlight id) :=
  tweaks_modify fun _ => rfl

theorem tweaks_saveSettings : Through step saveSettings := by
  refine through_get.bind fun studio => ?_
  split
  refine Through.bind (tweaks_modify fun _ => rfl) fun _ => ?_
  split
  · exact tweaks_printLine _
  · exact through_pure ()

theorem tweaks_updateStatus : Through step updateStatus := by
  refine tweaks_modify fun studio => ?_
  split <;> rfl

theorem tweaks_scheduleHighlights (ids : List Nat) : Through step (scheduleHighlights ids) := by
  induction ids with
  | nil => exact through_pure ()
  | cons id rest ih => exact (tweaks_scheduleHighlight id).bind fun _ => ih

theorem tweaks_applyTheme : Through step applyTheme := by
  refine Through.attempt ?_ fun trouble => tweaks_printLine _
  refine through_get.bind fun studio => (through_orTrouble _).bind fun theme => ?_
  refine Through.bind (through_modify fun studio => ?_) fun _ => tweaks_scheduleHighlights _
  exact Tweaks.of_tweak (.paint theme)

theorem tweaks_writeEditor (editor : Editor) (path : String) :
    Through step (writeEditor editor path) := by
  refine through_get.bind fun studio => (through_orTrouble _).bind fun disk => ?_
  exact tweaks_modify fun _ => rfl

theorem tweaks_reportUnsaved (trouble : Trouble) : Through step (reportUnsaved trouble) :=
  (tweaks_tell _ _ _).bind fun _ => through_pure _

theorem tweaks_changed (id : Nat) : Through step (changed id) := tweaks_changeEditor id fun _ => rfl

theorem tweaks_scheduleReport (id : Nat) : Through step (scheduleReport id) := by
  refine through_get.bind fun studio => ?_
  dsimp only
  split
  · exact Through.bind (tweaks_changeEditor id fun _ => rfl) fun _ => tweaks_enqueue _
  · exact through_pure ()

theorem tweaks_noteTyping (id : Nat) : Through step (noteTyping id) := by
  refine through_get.bind fun studio => ?_
  split
  · exact tweaks_changed id
  · exact tweaks_scheduleReport id

theorem tweaks_scrolled (id : Nat) (positions : List String) :
    Through step (scrolled id positions) := by
  cases positions with
  | nil => exact tweaks_printLine _
  | cons first rest => exact tweaks_changeEditor id fun _ => rfl

theorem tweaks_passOn (event : String) : Through step (passOn event) := by
  refine through_get.bind fun studio => ?_
  split
  · exact tweaks_modify fun _ => rfl
  · exact through_pure ()

theorem tweaks_markErrorLine (line : Nat) : Through step (markErrorLine line) := by
  refine through_get.bind fun studio => ?_
  split
  · exact tweaks_changeEditor _ fun _ => rfl
  · exact through_pure ()

theorem tweaks_reportFailure (failure : Running.Failure) :
    Through step (reportFailure failure) := by
  refine (tweaks_write _).bind fun _ => ?_
  split
  · exact tweaks_markErrorLine _
  · exact through_pure ()

theorem tweaks_writeOutputs (interactive : Bool) (lines : List String) :
    Through step (writeOutputs interactive lines) := by
  induction lines with
  | nil => exact through_pure ()
  | cons line rest ih =>
    refine Through.bind ?_ fun _ => ih
    unfold writeOutput
    split <;> exact tweaks_write _

theorem tweaks_writeSummary : Through step writeSummary := by
  refine through_get.bind fun studio => ?_
  dsimp only
  split
  · exact (tweaks_write _).bind fun _ => tweaks_write _
  · exact tweaks_write _

theorem tweaks_reportRun (failure : Running.Failure) : Through step (reportRun failure) :=
  (tweaks_reportFailure failure).bind fun _ => tweaks_printLine _

theorem tweaks_runProgram (interactive : Bool) (program : Program) :
    Through step (runProgram interactive program) := by
  refine (tweaks_onMachine _).bind fun ended => ?_
  split
  · exact through_throw _
  · exact through_throw _
  · exact tweaks_reportRun _
  · refine (tweaks_writeOutputs interactive _).bind fun _ => ?_
    split
    · exact tweaks_writeSummary
    · exact through_pure ()

theorem tweaks_execute (interactive : Bool) (code : String) :
    Through step (execute interactive code) := by
  refine through_get.bind fun studio => ?_
  split
  · exact tweaks_write _
  · split
    · exact tweaks_reportRun _
    · exact tweaks_runProgram interactive _

theorem tweaks_updateTitle : Through step updateTitle := by
  intro studio
  obtain ⟨site, title, notebook, hend, _, rfl | ⟨id, label, rfl⟩⟩ := updateTitle_eq studio
  · rw [after_of_ok hend]
    exact .single (Tweaks.of_tweak (.besides rfl))
  · rw [after_of_ok hend]
    exact .tail (.single (Tweaks.of_tweak (.label id label))) (Tweaks.of_tweak (.besides rfl))

theorem tweaks_saveTo (id : Nat) (editor : Editor) (file : FileName) :
    Through step (saveTo id editor file) := by
  refine Through.attempt ?_ fun trouble => tweaks_write _
  refine (tweaks_writeEditor editor _).bind fun _ => ?_
  exact Through.bind (tweaks_changeEditor id fun _ => rfl) fun _ => tweaks_updateTitle

theorem tweaks_saveBeforeRun (id : Nat) (editor : Editor) :
    Through step (saveBeforeRun id editor) := by
  unfold saveBeforeRun
  split
  · exact through_pure ()
  · split
    · exact tweaks_saveTo id editor _
    · exact through_pure ()

theorem tweaks_run : Through step run := by
  refine through_get.bind fun studio => ?_
  split
  · exact tweaks_write _
  · dsimp only
    split
    · exact tweaks_write _
    · exact (tweaks_write _).bind fun _ => (tweaks_write _).bind fun _ =>
        (tweaks_saveBeforeRun _ _).bind fun _ => tweaks_enqueue _

theorem tweaks_runSelection : Through step runSelection := by
  refine through_get.bind fun studio => ?_
  split
  · exact tweaks_write _
  · split
    · exact tweaks_write _
    · dsimp only
      split
      · exact tweaks_write _
      · exact (tweaks_write _).bind fun _ => (tweaks_write _).bind fun _ => tweaks_execute false _

theorem tweaks_checkProgram : Through step checkProgram := by
  refine through_get.bind fun studio => ?_
  split
  · exact tweaks_write _
  · refine through_get.bind fun studio => ?_
    split
    · exact through_pure ()
    · dsimp only
      split
      · exact tweaks_write _
      · refine Through.bind (tweaks_changeEditor _ fun _ => rfl) fun _ => ?_
        refine (tweaks_write _).bind fun _ => ?_
        split
        · exact tweaks_write _
        · exact tweaks_reportFailure _

theorem tweaks_clearConsole : Through step clearConsole :=
  (tweaks_write _).bind fun _ => tweaks_write _

theorem tweaks_resetMachine : Through step resetMachine :=
  (tweaks_onMachine _).discard.bind fun _ => (tweaks_write _).bind fun _ => tweaks_write _

theorem tweaks_runLine (line : String) : Through step (runLine line) := by
  refine through_get.bind fun studio => ?_
  split
  · exact tweaks_write _
  · refine (tweaks_write _).bind fun _ => ?_
    split
    · exact tweaks_clearConsole
    · exact tweaks_resetMachine
    · exact tweaks_execute true _

theorem tweaks_doTask (task : Task) : Through step (doTask task) := by
  cases task with
  | highlight editor => exact tweaks_changeEditor editor fun _ => rfl
  | noticeTab => exact tweaks_updateTitle.bind fun _ => tweaks_updateStatus
  | execute code => exact tweaks_execute false code
  | report editor => exact tweaks_changed editor

theorem tweaks_doTasks (tasks : List Task) : Through step (doTasks tasks) := by
  induction tasks with
  | nil => exact through_pure ()
  | cons task rest ih => exact (tweaks_doTask task).bind fun _ => ih

theorem tweaks_settle : Through step settle :=
  through_get.bind fun _ => Through.bind (tweaks_modify fun _ => rfl) fun _ => tweaks_doTasks _

theorem tweaks_showLastFolder : Through step showLastFolder := by
  refine through_get.bind fun studio => (through_orTrouble _).bind fun folder => ?_
  split
  · exact tweaks_onSite _
  · exact through_pure ()

theorem tweaks_greet : Through step greet := by
  refine through_get.bind fun studio => ?_
  split
  · exact (tweaks_write _).bind fun _ => tweaks_write _
  · exact (tweaks_write _).bind fun _ => (tweaks_write _).bind fun _ => tweaks_write _

/-- Finding changes the buffer of one editor. -/
theorem through_searchOnce {editor : Nat}
    (hchange : ∀ change, Through step (changeBuffer editor change))
    (search : Buffer → Desk → Buffer × Desk) : Through step (searchOnce editor search) := by
  refine through_get.bind fun studio => ?_
  split
  · exact through_pure ()
  · refine through_get.bind fun studio => ?_
    split
    exact (hchange _).bind fun _ => tweaks_modify fun _ => rfl

theorem through_replaceAll {window editor : Nat}
    (hchange : ∀ change, Through step (changeBuffer editor change))
    (hclose : Through step (closeWindow window)) (request : FindRequest) :
    Through step (replaceAll window editor request) := by
  refine through_get.bind fun studio => ?_
  split
  · exact through_pure ()
  · refine through_get.bind fun studio => ?_
    split
    · exact through_pure ()
    · exact through_throw _
    · refine (hchange _).bind fun _ => ?_
      exact Through.bind (tweaks_modify fun _ => rfl) fun _ => hclose

end Tweaks

/-! ## Actions that only edit -/

section Edits

variable [Edits step]

theorem edits_changeEditor (id : Nat) {change : Editor → Editor}
    (h : ∀ editor, (change editor).file = editor.file) : Through step (changeEditor id change) :=
  through_modify fun _ => Edits.of_edit (.change id h)

theorem edits_changeBuffer (id : Nat) (change : Buffer → Buffer) :
    Through step (changeBuffer id change) :=
  edits_changeEditor id fun _ => rfl

theorem edits_setText (id : Nat) (text : String) (intake : Intake) :
    Through step (setText id text intake) :=
  Through.bind (edits_changeEditor id fun _ => rfl) fun _ =>
    (tweaks_scheduleHighlight id).bind fun _ => tweaks_scheduleReport id

theorem setText_ok (id : Nat) (text : String) (intake : Intake) (studio : Studio) :
    setText id text intake studio = .ok () (after (setText id text intake) studio) := by
  have hreport : ∀ studio, ∃ later, scheduleReport id studio = .ok () later := by
    intro studio
    rw [scheduleReport, get_bind_apply]
    split
    · exact ⟨_, rfl⟩
    · exact ⟨_, rfl⟩
  obtain ⟨later, hlater⟩ := hreport (after (do
    changeEditor id (·.setText text intake)
    scheduleHighlight id) studio)
  have hset : setText id text intake studio = .ok () later := hlater
  rw [after_of_ok hset, hset]

theorem edits_selectTab (id : Nat) : Through step (selectTab id) :=
  through_changeNotebook fun _ => Edits.of_edit (.select id)

theorem edits_openWindow {body : WindowBody} (h : ∀ theme, body.Neutral theme) :
    Through step (openWindow body) :=
  fun studio => .single (Edits.of_edit (.openWindow (h studio.theme)))

theorem edits_closeWindow (id : Nat) : Through step (closeWindow id) :=
  through_modify fun _ => Edits.of_edit (.closeWindow id)

theorem edits_closePopup (editor : Nat) : Through step (closePopup editor) := by
  refine through_get.bind fun studio => ?_
  split
  · exact (edits_closeWindow _).bind fun _ => tweaks_changeEditor editor fun _ => rfl
  · exact through_pure ()

theorem edits_refreshBrackets (id : Nat) : Through step (refreshBrackets id) := by
  refine through_get.bind fun studio => ?_
  split
  · exact through_pure ()
  · split
    refine (edits_changeBuffer id _).bind fun _ => ?_
    split
    · exact through_pure ()
    · exact through_throw _
    · exact through_throw _

theorem edits_refreshBesides (id : Nat) : Through step (refreshBesides id) :=
  (edits_closePopup id).bind fun _ => Through.bind (tweaks_changeEditor id fun _ => rfl) fun _ =>
    edits_refreshBrackets id

theorem edits_keyReleased (id : Nat) : Through step (keyReleased id) :=
  Through.attempt ((edits_refreshBesides id).bind fun _ => tweaks_scheduleHighlight id)
    fun _ => tweaks_printLine _

theorem edits_clicked (id : Nat) : Through step (clicked id) :=
  Through.attempt (edits_refreshBesides id) fun _ => tweaks_printLine _

theorem edits_wheelTurned (id : Nat) (delta : Int) : Through step (wheelTurned id delta) :=
  Through.bind (tweaks_changeEditor id fun _ => rfl) fun _ => edits_closePopup id

theorem edits_offerCompletions (id : Nat) (cursorHidden : Bool) :
    Through step (offerCompletions id cursorHidden) := by
  refine (edits_closePopup id).bind fun _ => through_get.bind fun studio => ?_
  split
  · exact through_pure ()
  · split
    · exact through_pure ()
    · split
      · exact tweaks_printLine _
      · refine Through.bind (edits_openWindow fun _ => trivial) fun _ => ?_
        exact tweaks_changeEditor id fun _ => rfl

theorem edits_handleEvent (event : TextEvent) (cursorHidden : Bool) :
    Through step (handleEvent event cursorHidden) := by
  refine through_currentId.bind fun id => ?_
  cases event with
  | keyReleased => exact edits_keyReleased id
  | clicked => exact edits_clicked id
  | changed => exact tweaks_changed id
  | wheelTurned delta => exact edits_wheelTurned id delta
  | completionWanted => exact edits_offerCompletions id cursorHidden

theorem edits_typeText (text : String) : Through step (typeText text) :=
  through_currentId.bind fun id => (edits_changeBuffer id _).bind fun _ =>
    (tweaks_noteTyping id).bind fun _ => edits_keyReleased id

theorem edits_placeCursor (cursor : String) (selection : Option (String × String)) :
    Through step (placeCursor cursor selection) := by
  refine through_currentId.bind fun id => (through_resolve id cursor).bind fun position => ?_
  refine (edits_changeBuffer id _).bind fun _ => ?_
  cases selection with
  | none => exact (edits_changeBuffer id _).bind fun _ => edits_clicked id
  | some ends =>
    exact (through_resolve id ends.1).bind fun first => (through_resolve id ends.2).bind fun last =>
      (edits_changeBuffer id _).bind fun _ => edits_clicked id

theorem edits_toggleComment : Through step toggleComment := by
  refine through_get.bind fun studio => ?_
  split
  · exact edits_changeBuffer _ _
  · exact through_pure ()

theorem edits_goToLine : Through step goToLine := by
  refine through_get.bind fun studio => ?_
  split
  · exact through_pure ()
  · refine (tweaks_onSite _).bind fun reply => ?_
    split
    · split
      · exact edits_changeBuffer _ _
      · exact through_pure ()
    · exact through_pure ()

theorem edits_offerCompletionsHere : Through step offerCompletionsHere := by
  refine through_get.bind fun studio => ?_
  split
  · exact edits_offerCompletions _ _
  · exact through_pure ()

theorem edits_showTemplates : Through step showTemplates :=
  Through.discard (edits_openWindow fun _ => trivial)

theorem edits_showSettings : Through step showSettings :=
  fun _ => .single (Edits.of_edit (.openWindow rfl))

theorem edits_applyTemplate (window : Nat) (chosen : Option String) :
    Through step (applyTemplate window chosen) := by
  refine through_get.bind fun studio => ?_
  split
  · refine (edits_setText _ _ _).bind fun _ => ?_
    exact Through.bind (tweaks_changeEditor _ fun _ => rfl) fun _ => edits_closeWindow window
  · exact through_pure ()

theorem edits_searchOnce (editor : Nat) (search : Buffer → Desk → Buffer × Desk) :
    Through step (searchOnce editor search) :=
  through_searchOnce (edits_changeBuffer editor) search

theorem edits_replaceAll (window editor : Nat) (request : FindRequest) :
    Through step (replaceAll window editor request) :=
  through_replaceAll (edits_changeBuffer editor) (edits_closeWindow window) request

theorem edits_acceptCompletion (window editor : Nat) (completion : Completion)
    (chosen : Option String) : Through step (acceptCompletion window editor completion chosen) := by
  cases chosen with
  | none => exact through_pure ()
  | some word =>
    exact (edits_changeBuffer editor _).bind fun _ => (edits_closePopup editor).bind fun _ =>
      edits_closeWindow window

theorem edits_selectTabAt (place : Nat) : Through step (selectTabAt place) := by
  refine through_get.bind fun studio => ?_
  split
  · exact edits_selectTab _
  · exact through_pure ()

end Edits

/-! ## Waiting tasks -/

/-- The tasks that wait are done also after a trouble. -/
theorem after_thenSettle (act : Act Unit) (studio : Studio) :
    after (thenSettle act) studio = after settle (after act studio) := by
  cases hend : act studio with
  | ok _ studio' =>
    rw [after_of_ok hend, after, thenSettle, hend]
    rfl
  | error trouble studio' =>
    rw [after_of_error hend]
    simp only [after, thenSettle, hend]
    cases settle studio' <;> rfl

/-- A part of the studio that has nothing to do with what is written and printed, with the machine,
with what stands in editors, or with the title and the status. -/
structure Aside (part : Studio → γ) : Prop where
  write : ∀ change, Leaves part (write change)
  print : ∀ line, Leaves part (printLine line)
  machine : ∀ {α : Type} (act : Exec α), Leaves part (onMachine act)
  editor : ∀ id change, Leaves part (changeEditor id change)
  title : Leaves part updateTitle
  status : Leaves part updateStatus

namespace Aside

theorem reportRun (h : Aside part) (failure : Running.Failure) :
    Leaves part (reportRun failure) := by
  refine Leaves.bind (Leaves.bind (h.write _) fun _ => ?_) fun _ => h.print _
  split
  · refine leaves_get.bind fun studio => ?_
    split
    · exact h.editor _ _
    · exact fun _ => rfl
  · exact fun _ => rfl

theorem writeOutputs (h : Aside part) (interactive : Bool) (lines : List String) :
    Leaves part (writeOutputs interactive lines) := by
  induction lines with
  | nil => exact fun _ => rfl
  | cons line rest ih =>
    refine Leaves.bind ?_ fun _ => ih
    unfold writeOutput
    split <;> exact h.write _

theorem writeSummary (h : Aside part) : Leaves part writeSummary := by
  refine leaves_get.bind fun studio => ?_
  dsimp only
  split
  · exact (h.write _).bind fun _ => h.write _
  · exact h.write _

theorem execute (h : Aside part) (code : String) : Leaves part (execute false code) := by
  refine leaves_get.bind fun studio => ?_
  split
  · exact h.write _
  · split
    · exact h.reportRun _
    · refine Leaves.bind (h.machine _) fun ended => ?_
      split
      · exact fun _ => rfl
      · exact fun _ => rfl
      · exact h.reportRun _
      · exact (h.writeOutputs _ _).bind fun _ => h.writeSummary

/-- Tasks leave such a part alone. -/
theorem doTasks (h : Aside part) (tasks : List Task) : Leaves part (doTasks tasks) := by
  induction tasks with
  | nil => exact fun _ => rfl
  | cons task rest ih =>
    refine Leaves.bind ?_ fun _ => ih
    cases task with
    | highlight editor => exact h.editor _ _
    | noticeTab => exact h.title.bind fun _ => h.status
    | execute code => exact h.execute code
    | report editor => exact h.editor _ _

end Aside

end Studio

end ScriptStudio
