import ScriptStudio.Proofs.TabsWithEditors

/-!
# The last tab

Closing the current tab and closing all tabs are followed by a new tab if none is left, and so the
studio always has a tab to work in. The cross of a tab is the exception: it takes the tab away, and
nothing comes after the last one.

* `Studio.Themed`: the theme in force, and each that can come in force, is one of the themes.
* `Studio.ClosesLast`: the user clicks on the cross of the only tab and does not hold back.
* `Session.tab_left_iff`: there is always a tab exactly if this never happens.
-/

namespace ScriptStudio

namespace Studio

/-! ## Themes -/

/-- The setting is the name of a theme. -/
def ValidTheme (setting : Datum) : Prop := ∃ theme, themeOf setting = .ok theme

theorem validTheme_name (theme : Theme) : ValidTheme (.text theme.name) := by
  cases theme
  · exact ⟨.light, rfl⟩
  · exact ⟨.dark, rfl⟩

/-- Only themes are chosen in the window. -/
def OffersThemes (body : WindowBody) : Prop := ∀ theme, body = .settings theme → ValidTheme theme

theorem OffersThemes.fill {body : WindowBody} (h : OffersThemes body) (entry : WindowEntry) :
    OffersThemes (body.fill entry) := by
  intro theme heq
  cases body with
  | settings chosen =>
    unfold WindowBody.fill at heq
    dsimp only at heq
    split at heq
    · cases heq
      exact validTheme_name _
    · cases heq
      exact h _ rfl
  | templates | find | completions => cases heq

/-- The theme in force and those that are chosen in windows are themes. -/
structure Themed (studio : Studio) : Prop where
  theme : ValidTheme studio.theme
  windows : ∀ window ∈ studio.windows, OffersThemes window.body

/-- Of the notable changes, all but a setting that is no theme. -/
def Sane : Notable → Prop
  | .theme theme => ValidTheme theme
  | _ => True

variable {studio' : Studio}

theorem Tweak.themed (hstep : Tweak studio studio') (h : studio.Themed) : studio'.Themed := by
  cases hstep with
  | besides hcore =>
    have htheme : studio'.theme = studio.theme := congrArg (·.settings.theme) hcore
    have hwindows : studio'.windows = studio.windows := congrArg Core.windows hcore
    exact ⟨htheme ▸ h.theme, hwindows ▸ h.windows⟩
  | label id label => exact ⟨h.theme, h.windows⟩
  | mark id _ => exact ⟨h.theme, h.windows⟩
  | paint theme => exact ⟨h.theme, h.windows⟩

theorem offersThemes_of_neutral {theme : Datum} {body : WindowBody} (htheme : ValidTheme theme)
    (h : body.Neutral theme) : OffersThemes body := by
  intro chosen heq
  subst heq
  have hchosen : chosen = theme := h
  exact hchosen ▸ htheme

theorem Edit.themed (hstep : Edit studio studio') (h : studio.Themed) : studio'.Themed := by
  cases hstep with
  | tweak htweak => exact htweak.themed h
  | change id _ => exact ⟨h.theme, h.windows⟩
  | select id => exact ⟨h.theme, h.windows⟩
  | openWindow hneutral =>
    refine ⟨h.theme, fun window hwindow => ?_⟩
    rcases List.mem_append.mp hwindow with hwindow | hwindow
    · exact h.windows window hwindow
    · rw [List.mem_singleton.mp hwindow]
      exact offersThemes_of_neutral h.theme hneutral
  | closeWindow id =>
    exact ⟨h.theme, fun window hwindow => h.windows window (List.mem_of_mem_filter hwindow)⟩

theorem Shift.themed (hstep : Shift Sane studio studio') (h : studio.Themed) : studio'.Themed := by
  cases hstep with
  | edit hedit => exact hedit.themed h
  | name id file => exact ⟨h.theme, h.windows⟩
  | remember recentFiles lastFolder recentMenu => exact ⟨h.theme, h.windows⟩
  | fill hwindow entry =>
    refine ⟨h.theme, fun other hother => ?_⟩
    obtain ⟨old, hold, rfl⟩ := List.mem_map.mp hother
    split
    · exact (h.windows _ hwindow).fill entry
    · exact h.windows old hold
  | add theme _ => exact ⟨h.theme, h.windows⟩
  | drop id _ => exact ⟨h.theme, h.windows⟩
  | theme theme hvalid => exact ⟨hvalid, h.windows⟩
  | find _ replaces _ =>
    refine ⟨h.theme, fun window hwindow => ?_⟩
    rcases List.mem_append.mp hwindow with hwindow | hwindow
    · exact h.windows window hwindow
    · rw [List.mem_singleton.mp hwindow]
      intro chosen heq
      cases heq

theorem Themed.of_chain (h : studio.Themed)
    (hchain : Relation.ReflTransGen (Shift Sane) studio studio') : studio'.Themed :=
  survives_chain Themed (fun _ _ => Shift.themed) hchain h

theorem Themed.shifts_next (h : studio.Themed) (gesture : Gesture) :
    Relation.ReflTransGen (Shift Sane) studio (studio.next gesture) := by
  refine Studio.shifts_next trivial trivial trivial validTheme_name ?_ gesture
  exact fun window hwindow entry => (h.windows window hwindow).fill entry

theorem Themed.next {studio : Studio} (h : studio.Themed) (gesture : Gesture) :
    (studio.next gesture).Themed :=
  h.of_chain (h.shifts_next gesture)

/-! ## The row of tabs -/

/-- The numbers of the open tabs. -/
def row (studio : Studio) : List Nat := studio.notebook.ids

theorem Tweak.row_eq (hstep : Tweak studio studio') : studio'.row = studio.row := by
  cases hstep with
  | besides hcore => exact congrArg (·.notebook.ids) hcore
  | label id label => exact Notebook.ids_relabel _ id label
  | mark id _ => rfl
  | paint theme => rfl

theorem Edit.row_eq (hstep : Edit studio studio') : studio'.row = studio.row := by
  cases hstep with
  | tweak htweak => exact htweak.row_eq
  | change id _ => rfl
  | select id => exact Notebook.ids_select _ id
  | openWindow _ => rfl
  | closeWindow id => rfl

theorem row_withTab (theme : Theme) (studio : Studio) :
    (studio.withTab theme).row = studio.row ++ [studio.notebook.nextId] := by
  rw [row, withTab, Notebook.ids_select, Notebook.ids_add]
  rfl

theorem row_withoutTab (id : Nat) (studio : Studio) :
    (studio.withoutTab id).row = studio.row.filter (· != id) :=
  Notebook.ids_forget _ id

variable {allowed : Notable → Prop}

theorem Shift.row_ne_nil (hdrop : ¬ allowed .drop) (hstep : Shift allowed studio studio')
    (h : studio.row ≠ []) : studio'.row ≠ [] := by
  cases hstep with
  | edit hedit =>
    rw [hedit.row_eq]
    exact h
  | name | remember | fill | theme | find => exact h
  | add theme _ =>
    rw [row_withTab]
    exact List.append_ne_nil_of_right_ne_nil _ (List.cons_ne_nil _ _)
  | drop id hallowed => exact absurd hallowed hdrop

theorem row_ne_nil_of_chain (hdrop : ¬ allowed .drop)
    (hchain : Relation.ReflTransGen (Shift allowed) studio studio') (h : studio.row ≠ []) :
    studio'.row ≠ [] :=
  survives_chain (fun studio => studio.row ≠ []) (fun _ _ => Shift.row_ne_nil hdrop) hchain h

theorem Shift.row_eq (hadd : ¬ allowed .add) (hdrop : ¬ allowed .drop)
    (hstep : Shift allowed studio studio') : studio'.row = studio.row := by
  cases hstep with
  | edit hedit => exact hedit.row_eq
  | name | remember | fill | theme | find => rfl
  | add theme hallowed => exact absurd hallowed hadd
  | drop id hallowed => exact absurd hallowed hdrop

variable {α : Type} {act : Act α} {studio : Studio}

theorem Through.row_ne_nil (hact : Through (Shift (· ≠ .drop)) act) (h : studio.row ≠ []) :
    (after act studio).row ≠ [] :=
  row_ne_nil_of_chain (fun hdrop => hdrop rfl) (hact studio) h

theorem Through.row_eq (hact : Through (Shift fun _ => False) act) :
    (after act studio).row = studio.row :=
  hact.leaves (fun _ _ => Shift.row_eq id id) studio

theorem Themed.after (h : studio.Themed) (hact : Through (Shift Sane) act) :
    (after act studio).Themed :=
  h.of_chain (hact studio)

/-! ## Closing and opening -/

theorem updateTitle_ok (studio : Studio) :
    updateTitle studio = .ok () (Studio.after updateTitle studio) := by
  obtain ⟨site, title, notebook, hend, _⟩ := updateTitle_eq studio
  rw [after_of_ok hend, hend]

theorem dropTab_ok (id : Nat) (studio : Studio) :
    dropTab id studio = .ok () (Studio.after (dropTab id) studio) := by
  obtain ⟨tasks, hend⟩ := dropTab_eq id studio
  rw [after_of_ok hend, hend]

theorem row_dropTab (id : Nat) (studio : Studio) :
    (Studio.after (dropTab id) studio).row = studio.row.filter (· != id) := by
  obtain ⟨tasks, hend⟩ := dropTab_eq id studio
  rw [after_of_ok hend]
  exact row_withoutTab id studio

theorem dropTabs_ok (ids : List Nat) (studio : Studio) :
    dropTabs ids studio = .ok () (Studio.after (dropTabs ids) studio) := by
  induction ids generalizing studio with
  | nil => rfl
  | cons id rest ih =>
    rw [dropTabs, bind_of_ok (dropTab_ok id studio), after_bind_of_ok (dropTab_ok id studio)]
    exact ih _

/-- Where the theme is valid, a new tab is made. -/
theorem row_newWelcomeTab (h : studio.Themed) :
    (Studio.after newWelcomeTab studio).row ≠ [] := by
  obtain ⟨theme, htheme⟩ := h.theme
  obtain ⟨tasks, hadd⟩ := addTab_eq theme studio
  have hokay : orTrouble (themeOf studio.theme) studio = .ok theme studio := by
    rw [htheme]
    rfl
  have hchain : Relation.ReflTransGen (Shift (· ≠ .drop))
      { studio.withTab theme with tasks := tasks } (Studio.after newWelcomeTab studio) := by
    rw [newWelcomeTab, newTab]
    refine chain_attempt ?_ fun trouble => (tweaks_printLine _).bind fun _ => tweaks_tell _ _ _
    rw [after_get_bind, after_bind_of_ok hokay, after_bind_of_ok hadd]
    exact ((edits_setText _ _ _).bind fun _ => tweaks_updateTitle) _
  refine row_ne_nil_of_chain (fun hdrop => hdrop rfl) hchain ?_
  have hrow : ({ studio.withTab theme with tasks := tasks } : Studio).row =
      studio.row ++ [studio.notebook.nextId] := row_withTab theme studio
  rw [hrow]
  exact List.append_ne_nil_of_right_ne_nil _ (List.cons_ne_nil _ _)

theorem confirmed_cases {ask : Act Bool} (hask : Through (Shift fun _ => False) ask)
    (rest : Act Unit) (studio : Studio) :
    (∃ settled, ask studio = .ok true settled ∧ settled.row = studio.row ∧
        (studio.Themed → settled.Themed) ∧
        Studio.after (ask >>= fun goOn => if goOn then rest else pure ()) studio =
          Studio.after rest settled) ∨
      (∀ settled, ask studio ≠ .ok true settled) ∧
        (Studio.after (ask >>= fun goOn => if goOn then rest else pure ()) studio).row =
          studio.row := by
  have hsame : (Studio.after ask studio).row = studio.row := hask.row_eq
  have hthemed : studio.Themed → (Studio.after ask studio).Themed := fun h =>
    survives_chain Themed (fun _ _ hstep => Shift.themed (hstep.mono fun _ => False.elim))
      (hask studio) h
  cases hend : ask studio with
  | error trouble settled =>
    rw [after_of_error hend] at hsame
    rw [after_bind_of_error hend]
    refine .inr ⟨fun _ heq => ?_, hsame⟩
    cases heq
  | ok goOn settled =>
    rw [after_of_ok hend] at hsame hthemed
    rw [after_bind_of_ok hend]
    cases goOn with
    | true => exact .inl ⟨settled, rfl, hsame, hthemed, rfl⟩
    | false =>
      refine .inr ⟨fun _ heq => ?_, hsame⟩
      cases heq

theorem row_closeTab (h : studio.Themed) (hrow : studio.row ≠ []) :
    (Studio.after closeTab studio).row ≠ [] := by
  rw [closeTab, after_get_bind]
  split
  · exact hrow
  · rename_i id editor _
    rcases confirmed_cases (shifts_settleChanges id) _ studio with
      ⟨settled, _, _, hthemed, hend⟩ | ⟨_, hsame⟩
    · replace hthemed := ((hthemed h).after (shifts_dropTab trivial id)).after tweaks_updateTitle
      rw [hend, after_bind_of_ok (dropTab_ok id settled), after_bind_of_ok (updateTitle_ok _),
        after_get_bind]
      split
      · exact row_newWelcomeTab hthemed
      · rename_i htabs
        intro hnil
        exact htabs (List.isEmpty_iff.mpr (List.map_eq_nil_iff.mp hnil))
    · rwa [hsame]

theorem row_closeAllTabs (h : studio.Themed) (hrow : studio.row ≠ []) :
    (Studio.after closeAllTabs studio).row ≠ [] := by
  rw [closeAllTabs, after_get_bind]
  rcases confirmed_cases (shifts_settleAll _) _ studio with
    ⟨settled, _, _, hthemed, hend⟩ | ⟨_, hsame⟩
  · replace hthemed := ((hthemed h).after (shifts_dropTabs trivial settled.notebook.ids)).after
      tweaks_updateTitle
    rw [hend, after_get_bind, after_bind_of_ok (dropTabs_ok _ settled),
      after_bind_of_ok (updateTitle_ok _)]
    exact row_newWelcomeTab hthemed
  · rwa [hsame]

theorem row_closeTabAt (place : Nat) (studio : Studio) :
    (∃ id settled, studio.row[place]? = some id ∧ settleChanges id studio = .ok true settled ∧
        (Studio.after (closeTabAt place) studio).row = studio.row.filter (· != id)) ∨
      (∀ id settled, studio.row[place]? = some id → settleChanges id studio ≠ .ok true settled) ∧
        (Studio.after (closeTabAt place) studio).row = studio.row := by
  rw [closeTabAt, after_get_bind]
  cases hplace : studio.notebook.ids[place]? with
  | none =>
    refine .inr ⟨fun id settled heq => ?_, rfl⟩
    rw [row, hplace] at heq
    cases heq
  | some id =>
    rcases confirmed_cases (shifts_settleChanges id) _ studio with
      ⟨settled, hsettled, hsame, _, hend⟩ | ⟨hheld, hsame⟩
    · refine .inl ⟨id, settled, hplace, hsettled, ?_⟩
      dsimp only
      rw [hend, after_bind_of_ok (dropTab_ok id settled), ← hsame, ← row_dropTab]
      exact Through.row_eq tweaks_updateTitle
    · refine .inr ⟨fun other settled heq => ?_, hsame⟩
      rw [row, hplace, Option.some.injEq] at heq
      exact heq ▸ hheld settled

theorem row_perform (h : studio.Themed) (hrow : studio.row ≠ []) (command : Command) :
    (Studio.after (perform command) studio).row ≠ [] := by
  cases command with
  | closeTab => exact row_closeTab h hrow
  | closeAllTabs => exact row_closeAllTabs h hrow
  | _ =>
    refine Through.row_ne_nil (shifts_perform fun notable hmay hdrop => ?_) hrow
    subst hdrop
    exact hmay

/-! ## Deeds -/

/-- The user clicks on the cross of the only tab, and then nothing keeps it: its text is not
changed, or it is saved, or it is given up. -/
def ClosesLast (studio : Studio) (gesture : Gesture) : Prop :=
  gesture.deed = .clickCross 0 ∧ ∃ id, studio.row = [id] ∧
    ∃ settled, settleChanges id (studio.withReplies gesture.replies) = .ok true settled

theorem row_next (studio : Studio) (gesture : Gesture) :
    (studio.next gesture).row =
      (Studio.after (follow gesture.deed) (studio.withReplies gesture.replies)).row := by
  rw [next_eq]
  exact Through.row_eq tweaks_settle

theorem row_next_ne_nil (h : studio.Themed) (hrow : studio.row ≠ []) {gesture : Gesture}
    (hdeed : ∀ place, gesture.deed ≠ .clickCross place) : (studio.next gesture).row ≠ [] := by
  have hthemed : (studio.withReplies gesture.replies).Themed := ⟨h.theme, h.windows⟩
  rw [row_next]
  have hfollows := follows_follow gesture.deed (studio.withReplies gesture.replies)
  generalize gesture.deed = deed, Studio.after _ _ = studio' at hdeed hfollows ⊢
  cases hfollows with
  | command command hcore =>
    have hsame := Tweak.besides hcore
    refine row_perform (hsame.themed hthemed) ?_ command
    rw [hsame.row_eq]
    exact hrow
  | cross place => exact absurd rfl (hdeed place)
  | window entry events =>
    have hchain : Relation.ReflTransGen (Shift (· ≠ .drop)) (studio.withReplies gesture.replies)
        (Studio.after (useWindow entry events) (studio.withReplies gesture.replies)) :=
      shifts_useWindow (fun _ _ _ _ => Notable.noConfusion) events
    exact row_ne_nil_of_chain (fun hdrop => hdrop rfl) hchain hrow
  | plain hchain => exact row_ne_nil_of_chain Notable.noConfusion hchain hrow

theorem filter_ne_eq_nil_iff {ids : List Nat} {id : Nat} (hnodup : ids.Nodup) (hid : id ∈ ids) :
    ids.filter (· != id) = [] ↔ ids = [id] := by
  constructor
  · intro hnil
    have hall : ∀ other ∈ ids, other = id := by
      intro other hother
      simpa using List.filter_eq_nil_iff.mp hnil other hother
    cases ids with
    | nil => cases hid
    | cons first rest =>
      obtain ⟨rfl, hrest⟩ := List.forall_mem_cons.mp hall
      cases rest with
      | nil => rfl
      | cons second rest =>
        have hsecond := hrest second List.mem_cons_self
        simp [hsecond] at hnodup
  · rintro rfl
    simp

theorem row_next_clickCross (hnodup : studio.row.Nodup) (hrow : studio.row ≠ []) {gesture : Gesture}
    {place : Nat} (hdeed : gesture.deed = .clickCross place) :
    (studio.next gesture).row = [] ↔ studio.ClosesLast gesture := by
  rw [row_next, hdeed, follow]
  rcases row_closeTabAt place (studio.withReplies gesture.replies) with
    ⟨id, settled, hplace, hsettled, hend⟩ | ⟨hheld, hsame⟩
  · have hsome : studio.row[place]? = some id := hplace
    rw [hend]
    refine (filter_ne_eq_nil_iff hnodup (List.mem_of_getElem? hsome)).trans ⟨?_, ?_⟩
    · intro hall
      refine ⟨?_, id, hall, settled, hsettled⟩
      rw [hall] at hsome
      obtain ⟨hlt, _⟩ := List.getElem?_eq_some_iff.mp hsome
      rw [hdeed, Nat.lt_one_iff.mp hlt]
    · rintro ⟨_, other, hother, _⟩
      have hmem := List.mem_of_getElem? hsome
      rw [hother, List.mem_singleton] at hmem
      exact hmem ▸ hother
  · rw [hsame]
    refine ⟨fun hnil => absurd hnil hrow, ?_⟩
    rintro ⟨hzero, id, hall, settled, hsettled⟩
    rw [hdeed, Deed.clickCross.injEq] at hzero
    have hfirst : (studio.withReplies gesture.replies).row[place]? = some id := by
      rw [hzero]
      exact congrArg (·[0]?) hall
    exact absurd hsettled (hheld id settled hfirst)

theorem row_next_eq_nil_iff (h : studio.Themed) (hnodup : studio.row.Nodup) (hrow : studio.row ≠ [])
    (gesture : Gesture) : (studio.next gesture).row = [] ↔ studio.ClosesLast gesture := by
  by_cases hdeed : ∃ place, gesture.deed = .clickCross place
  · obtain ⟨place, hdeed⟩ := hdeed
    exact row_next_clickCross hnodup hrow hdeed
  · refine ⟨fun hnil => ?_, fun hcloses => ?_⟩
    · exact absurd hnil (row_next_ne_nil h hrow fun place heq => hdeed ⟨place, heq⟩)
    · exact absurd ⟨0, hcloses.1⟩ hdeed

/-! ## The start -/

theorem ends_bind {β : Type} {next : α → Act β} {ends : Studio → Prop} (holds : Studio → Prop)
    (hact : holds (Studio.after act studio))
    (hnext : ∀ a studio', holds studio' → ∀ b last, next a studio' = .ok b last → ends last) :
    ∀ b last, (act >>= next) studio = .ok b last → ends last := by
  intro b last hend
  cases hfirst : act studio with
  | ok a studio' =>
    rw [after_of_ok hfirst] at hact
    rw [bind_of_ok hfirst] at hend
    exact hnext a studio' hact b last hend
  | error trouble studio' =>
    simp only [bind, EStateM.bind, hfirst] at hend
    cases hend

theorem row_setUp (styles : List String) (h : studio.Themed)
    (htheme : ∀ values, Preferences.read studio.site.disk = .ok (some values) →
      ValidTheme values.theme) :
    ∀ b last, setUp styles studio = .ok b last → last.row ≠ [] := by
  rw [setUp, bind_of_ok (printLine_ok _ studio), modify_bind_apply, get_bind_apply,
    bind_of_ok (printLine_ok _ _)]
  have hloaded : ∀ shown : Studio, shown.core = studio.core → shown.site.disk = studio.site.disk →
      (Studio.after loadSettings shown).Themed := by
    intro shown hcore hdisk
    refine ((Tweak.besides hcore).themed h).of_chain (shifts_loadSettings ?_)
    rw [hdisk]
    exact htheme
  refine ends_bind Themed (hloaded _ rfl rfl) fun _ _ h => ?_
  refine ends_bind Themed (h.after (tweaks_modify ?_)) fun _ _ h => ?_
  · exact fun _ => rfl
  refine ends_bind Themed (h.after (tweaks_printLine _)) fun _ _ h => ?_
  refine ends_bind Themed (h.after shifts_refreshRecentMenu) fun _ _ h => ?_
  refine ends_bind Themed (h.after (tweaks_modify ?_)) fun _ _ h => ?_
  · exact fun _ => rfl
  refine ends_bind Themed (h.after tweaks_applyTheme) fun _ _ h => ?_
  refine ends_bind Themed (h.after tweaks_showLastFolder) fun _ _ h => ?_
  refine ends_bind (fun studio => studio.row ≠ []) (row_newWelcomeTab h) fun _ _ hrow => ?_
  intro _ last hend
  have hgreet : Through (Shift (· ≠ .drop)) (do
      greet
      printLine "✅ Enhanced DoroLang IDE successfully initialized!") :=
    tweaks_greet.bind fun _ => tweaks_printLine _
  rw [← after_of_ok hend]
  exact hgreet.row_ne_nil hrow

end Studio

/-! ## Sessions -/

namespace Session

open Studio

/-- The start of the studio ends without a trouble. -/
def comesUp (session : Session) : Bool :=
  match start session.styles session.blank with
  | .ok _ _ => true
  | .error _ _ => false

theorem themed_blank (session : Session) : session.blank.Themed :=
  ⟨validTheme_name .light, by simp [blank, onDisk]⟩

theorem row_start {session : Session} {studio : Studio}
    (htheme : ∀ values, Preferences.read session.disk = .ok (some values) →
      ValidTheme values.theme)
    (hend : start session.styles session.blank = .ok () studio) : studio.row ≠ [] := by
  rw [start, bind_of_ok (printLine_ok _ _)] at hend
  have hthemed : (after (printLine "✅ Modern fonts set (Segoe UI, Consolas).")
      session.blank).Themed :=
    session.themed_blank.after (tweaks_printLine _)
  cases hset : setUp session.styles (after (printLine "✅ Modern fonts set (Segoe UI, Consolas).")
      session.blank) with
  | ok _ last =>
    rw [attempt_of_ok hset] at hend
    cases hend
    exact row_setUp session.styles hthemed htheme _ _ hset
  | error trouble last =>
    simp only [attempt, hset] at hend
    split at hend
    · cases hend
    · cases hend

theorem row_first {session : Session} (hstart : session.comesUp)
    (htheme : ∀ values, Preferences.read session.disk = .ok (some values) →
      ValidTheme values.theme) :
    session.first.row ≠ [] := by
  rw [first, after_thenSettle]
  refine Through.row_ne_nil tweaks_settle ?_
  unfold comesUp at hstart
  split at hstart
  · rename_i studio hend
    rw [after_of_ok hend]
    exact row_start htheme hend
  · cases hstart

theorem tab_left_scanl {studio : Studio} (hthemed : studio.Themed) (hpaired : studio.Paired)
    (hrow : studio.row ≠ []) (gestures : List Gesture) :
    (∀ state ∈ gestures.scanl next studio, state.row ≠ []) ↔
      ∀ step ∈ (gestures.scanl next studio).zip gestures, ¬ step.1.ClosesLast step.2 := by
  induction gestures generalizing studio with
  | nil => simpa using hrow
  | cons gesture rest ih =>
    have hstep := row_next_eq_nil_iff hthemed hpaired.sound.nodup hrow gesture
    have hnext := first_mem_scanl (studio.next gesture) rest
    rw [List.scanl_cons, List.zip_cons_cons, List.forall_mem_cons, List.forall_mem_cons]
    -- Without a tab both sides have failed at this gesture; with one, all that is needed goes on.
    by_cases hnil : (studio.next gesture).row = []
    · exact ⟨fun h => absurd hnil (h.2 _ hnext), fun h => absurd (hstep.mp hnil) h.1⟩
    · have hkept : (studio.next gesture).Paired :=
        survives_chain Paired (fun _ _ => Shift.paired) (hthemed.shifts_next gesture) hpaired
      have hrest := ih (hthemed.next gesture) hkept hnil
      exact ⟨fun h => ⟨fun hcloses => hnil (hstep.mpr hcloses), hrest.mp h.2⟩,
        fun h => ⟨hrow, hrest.mpr h.2⟩⟩

/-- In a session that starts with a valid theme, there is always an open tab exactly if the user
never closes the only one by its cross. -/
theorem tab_left_iff (session : Session) (hstart : session.comesUp)
    (htheme : ∀ values, Preferences.read session.disk = .ok (some values) →
      ValidTheme values.theme) :
    (∀ studio ∈ session.states, studio.notebook.tabs ≠ []) ↔
      ∀ step ∈ session.states.zip session.gestures, ¬ step.1.ClosesLast step.2 := by
  have hthemed : session.first.Themed := session.themed_blank.of_chain (shifts_first trivial htheme)
  have hpaired := session.paired_states _ (first_mem_scanl _ _)
  rw [states, ← tab_left_scanl hthemed hpaired (row_first hstart htheme)]
  simp only [row, Notebook.ids, ne_eq, List.map_eq_nil_iff]

/-- The only tab is closed by a key, and the next one together with all, changes and all. -/
def closingByCommand : Session where
  styles := ["clam"]
  disk := ⟨[]⟩
  replies := []
  isDemo := false
  reports := .first
  gestures := [⟨.key "<Control-w>", [.bool false]⟩, ⟨.type "say 1", []⟩,
    ⟨.menu ["📁 File", "Close All Tabs"], [.bool false]⟩]

theorem tab_left_closingByCommand :
    closingByCommand.comesUp ∧
      (∀ values, Preferences.read closingByCommand.disk = .ok (some values) →
        ValidTheme values.theme) ∧
      ∀ studio ∈ closingByCommand.states, studio.notebook.tabs ≠ [] := by
  have hstart : closingByCommand.comesUp = true := by decide +kernel
  have htheme : ∀ values, Preferences.read closingByCommand.disk = .ok (some values) →
      ValidTheme values.theme := by
    intro values hread
    have hnone : Preferences.read closingByCommand.disk = .ok none := rfl
    rw [hnone] at hread
    cases hread
  refine ⟨hstart, htheme, (tab_left_iff closingByCommand hstart htheme).mpr ?_⟩
  rintro ⟨studio, gesture⟩ hstep ⟨hdeed, _⟩
  have hgesture := (List.of_mem_zip hstep).2
  simp only [closingByCommand, List.mem_cons, List.not_mem_nil, or_false] at hgesture
  rcases hgesture with rfl | rfl | rfl <;> cases hdeed

/-- The only tab is closed by its cross, and its changes are given up if it has any. -/
def closingLast (reports : Reports) : Session :=
  { closingByCommand with reports, gestures := [⟨.clickCross 0, [.bool false]⟩] }

/-- Then the studio has no tab, whenever changes are told. -/
theorem no_tab_left_closingLast :
    let losesLast (session : Session) :=
      session.comesUp ∧ ¬ ∀ studio ∈ session.states, studio.notebook.tabs ≠ []
    losesLast (closingLast .typed) ∧ losesLast (closingLast .first) := by
  have hnone : (closingLast .typed).studio.notebook.tabs = [] ∧
      (closingLast .first).studio.notebook.tabs = [] := by
    decide +kernel
  refine ⟨⟨by decide +kernel, fun h => ?_⟩, ⟨by decide +kernel, fun h => ?_⟩⟩
  · exact h _ (studio_mem_states _) hnone.1
  · exact h _ (studio_mem_states _) hnone.2

-- Where the first change is told, the text of the start counts as changed, and a question that
-- finds no reply keeps its tab.
example : ({ closingLast .first with gestures := [⟨.clickCross 0, []⟩] } :
    Session).studio.notebook.tabs.length = 1 := by
  decide +kernel

end Session

end ScriptStudio
