import ScriptStudio.Proofs.StudioTurns

/-!
# Sessions of the studio

A session begins with the start of the studio on some disk. After that the user does one thing after
the other, each with replies to what the studio may ask meanwhile. The ledger goes from one state to
the next by a turn, also where a deed ends with a trouble.

* `Ledger.Launched`: what the ledger is like after the start.
* `Session.first`, `Studio.next`, `Session.studio`: the states of a session.
* `Session.ledger_studio`: invariants of sessions, from the start and the turns.
-/

namespace ScriptStudio

namespace Recent

/-- The recent files can bring a name: it is typed, or it stands among them. -/
def Brings (recent : Datum) (name : FileName) : Prop :=
  (∃ path, name = .typed path) ∨ ∃ items, recent = .list items ∧ name.datum ∈ items

variable {names : List Datum} {name : FileName}

theorem mem_of_existing {disk : Disk} {kept : List Datum} (h : existing disk names = .ok kept)
    {item : Datum} (hitem : item ∈ kept) : item ∈ names := by
  induction names generalizing kept with
  | nil =>
    cases h
    cases hitem
  | cons name rest ih =>
    rw [existing] at h
    cases hhere : doesExist disk name with
    | error trouble =>
      rw [hhere] at h
      cases h
    | ok here =>
      cases hothers : existing disk rest with
      | error trouble =>
        rw [hhere, hothers] at h
        cases h
      | ok others =>
        rw [hhere, hothers] at h
        cases h
        split at hitem
        · rcases List.mem_cons.mp hitem with rfl | hitem
          · exact List.mem_cons_self
          · exact List.mem_cons_of_mem _ (ih hothers hitem)
        · exact List.mem_cons_of_mem _ (ih hothers hitem)

theorem datum_of_ofDatum? {item : Datum} (h : FileName.ofDatum? item = some name) :
    name.datum = item := by
  cases item with
  | text path | path path =>
    cases h
    rfl
  | _ => cases h

theorem datum_mem_of_entries (h : .file name ∈ (entries names).1) : name.datum ∈ names := by
  induction names with
  | nil => cases h
  | cons item rest ih =>
    rw [entries] at h
    cases hitem : FileName.ofDatum? item with
    | none =>
      rw [hitem] at h
      cases h
    | some first =>
      rw [hitem] at h
      rcases List.mem_cons.mp h with heq | h
      · cases heq
        rw [datum_of_ofDatum? hitem]
        exact List.mem_cons_self
      · exact List.mem_cons_of_mem _ (ih h)

theorem brings_of_front {recent : Datum} (h : front recent = .ok names)
    (hname : name.datum ∈ names) : Brings recent name := by
  cases recent with
  | list items =>
    cases h
    exact .inr ⟨items, rfl, List.mem_of_mem_take hname⟩
  | text text =>
    cases h
    obtain ⟨c, _, hc⟩ := List.mem_map.mp hname
    cases name with
    | typed path => exact .inl ⟨path, rfl⟩
    | built path => cases hc
  | _ => cases h

/-- The menu of recent files offers no other names. -/
theorem brings_of_mem_menu {disk : Disk} {recent : Datum} (h : .file name ∈ (menu disk recent).1) :
    Brings recent name := by
  unfold menu at h
  split at h
  · cases hfront : front recent with
    | error trouble =>
      rw [hfront] at h
      cases h
    | ok names =>
      rw [hfront] at h
      dsimp only [bind, Except.bind] at h
      cases hkept : existing disk names with
      | error trouble =>
        rw [hkept] at h
        cases h
      | ok kept =>
        rw [hkept] at h
        have hmem : name.datum ∈ kept := by
          cases kept with
          | nil => simp at h
          | cons first rest => exact datum_mem_of_entries h
        exact brings_of_front hfront (mem_of_existing hkept hmem)
  · simp at h

end Recent

/-- The settings without a settings file. -/
def Preferences.Values.initial : Preferences.Values := ⟨.list [], .text Theme.light.name, .null⟩

namespace Ledger

/-- No number is used for two tabs or will be used again. -/
structure Numbered (ledger : Ledger) : Prop where
  nodup : (ledger.files.map (·.1)).Nodup
  lt_nextId : ∀ tab ∈ ledger.files, tab.1 < ledger.nextId

theorem Numbered.added {ledger : Ledger} (h : ledger.Numbered) : ledger.added.Numbered where
  nodup := by
    have hnext : ledger.nextId ∉ ledger.files.map (·.1) := by
      intro hmem
      obtain ⟨tab, htab, hid⟩ := List.mem_map.mp hmem
      exact Nat.ne_of_lt (h.lt_nextId tab htab) hid
    rw [Ledger.added, List.map_append]
    refine List.nodup_append.mpr ⟨h.nodup, List.pairwise_singleton _ _, ?_⟩
    intro id hid other hother heq
    rw [heq, List.mem_singleton.mp hother] at hid
    exact hnext hid
  lt_nextId := by
    intro tab htab
    rcases List.mem_append.mp htab with htab | htab
    · exact Nat.lt_succ_of_lt (h.lt_nextId tab htab)
    · rw [List.mem_singleton.mp htab]
      exact Nat.lt_succ_self _

/-- What the ledger of a studio is like that has started on a disk. -/
structure Launched (disk : Disk) (ledger : Ledger) : Prop where
  numbered : ledger.Numbered
  files : ∀ tab ∈ ledger.files, tab.2 = none
  settings : ledger.settings = .initial ∨ Preferences.read disk = .ok (some ledger.settings)
  recentMenu : ∀ name, .file name ∈ ledger.recentMenu →
    Recent.Brings ledger.settings.recentFiles name

theorem Launched.added {disk : Disk} {ledger : Ledger} (h : ledger.Launched disk) :
    ledger.added.Launched disk where
  numbered := h.numbered.added
  files := by
    intro tab htab
    rcases List.mem_append.mp htab with htab | htab
    · exact h.files tab htab
    · rw [List.mem_singleton.mp htab]
  settings := h.settings
  recentMenu := h.recentMenu

/-- The relation of steps that a property survives. -/
def Survives (holds : Ledger → Prop) (before after : Ledger) : Prop := holds before → holds after

instance (holds : Ledger → Prop) : Std.Refl (Survives holds) := ⟨fun _ h => h⟩

instance (holds : Ledger → Prop) : IsTrans Ledger (Survives holds) :=
  ⟨fun _ _ _ h h' hbefore => h' (h hbefore)⟩

end Ledger

namespace Studio

open Ledger

/-! ## The start -/

theorem survives_refreshRecentMenu (disk : Disk) :
    Moves (Survives (Launched disk)) refreshRecentMenu := by
  intro studio h
  obtain ⟨present, hmenu⟩ := ledger_refreshRecentMenu studio
  rw [hmenu]
  exact ⟨⟨h.numbered.nodup, h.numbered.lt_nextId⟩, h.files, h.settings,
    fun name => Recent.brings_of_mem_menu⟩

theorem survives_newWelcomeTab (disk : Disk) :
    Moves (Survives (Launched disk)) newWelcomeTab := by
  intro studio h
  refine ledger_newTab _ studio h fun studio' hledger => ?_
  rw [(edits_setText _ _ _).quiet studio', hledger]
  exact h.added

variable {studio : Studio}

theorem launched_loadSettings {disk : Disk} (hdisk : studio.site.disk = disk)
    (h : studio.ledger = ⟨[], 1, .initial, []⟩) :
    Launched disk (after loadSettings studio).ledger := by
  have hblank : ∀ settings, settings = .initial ∨ Preferences.read disk = .ok (some settings) →
      Launched disk ⟨[], 1, settings, []⟩ := fun settings hsettings =>
    ⟨⟨List.nodup_nil, by simp⟩, by simp, hsettings, by simp⟩
  rw [loadSettings, after_get_bind, hdisk]
  cases hread : Preferences.read disk with
  | error trouble =>
    have hledger : ∀ line, (after (do
        printLine line
        modify fun studio => { studio with recentFiles := .list [], lastFolder := .null })
        studio).ledger = { studio.ledger with
          settings := { studio.ledger.settings with
            recentFiles := .list [], lastFolder := .null } } :=
      fun _ => rfl
    dsimp only
    rw [hledger, h]
    exact hblank _ (.inl rfl)
  | ok found =>
    cases found with
    | none =>
      have hledger : (after (pure () : Act Unit) studio).ledger = ⟨[], 1, .initial, []⟩ := h
      dsimp only
      rw [hledger]
      exact hblank _ (.inl rfl)
    | some values =>
      have hledger : (after (modify fun studio : Studio => { studio with
          recentFiles := values.recentFiles
          theme := values.theme
          lastFolder := values.lastFolder } : Act Unit) studio).ledger =
          { studio.ledger with settings := values } := rfl
      dsimp only
      rw [hledger, h]
      exact hblank _ (.inr hread)

/-- What follows a look at the settings file. -/
theorem survives_bind {α β : Type} {holds : Ledger → Prop} {act : Act α} {next : α → Act β}
    (hact : holds (after act studio).ledger) (hnext : ∀ a, Moves (Survives holds) (next a)) :
    holds (after (act >>= next) studio).ledger := by
  cases hend : act studio with
  | ok a studio' =>
    rw [after_of_ok hend] at hact
    rw [after_bind_of_ok hend]
    exact hnext a studio' hact
  | error trouble studio' =>
    rw [after_of_error hend] at hact
    rwa [after_bind_of_error hend]

theorem launched_setUp (styles : List String) {disk : Disk} (hdisk : studio.site.disk = disk)
    (h : studio.ledger = ⟨[], 1, .initial, []⟩) :
    Launched disk (after (setUp styles) studio).ledger := by
  have hprint : ∀ line studio, printLine line studio = .ok () (after (printLine line) studio) :=
    fun _ _ => rfl
  rw [setUp, after_bind_of_ok (hprint _ studio), after_modify_bind, after_get_bind,
    after_bind_of_ok (hprint _ _)]
  refine survives_bind (launched_loadSettings ?_ ?_) fun _ => ?_
  · exact hdisk
  · exact h
  refine Through.bind_moves (tweaks_modify ?_) fun _ => ?_
  · exact fun _ => rfl
  refine (tweaks_printLine _).bind_moves fun _ => ?_
  refine (survives_refreshRecentMenu _).bind fun _ => ?_
  refine Through.bind_moves (tweaks_modify ?_) fun _ => ?_
  · exact fun _ => rfl
  refine tweaks_applyTheme.bind_moves fun _ => tweaks_showLastFolder.bind_moves fun _ => ?_
  refine (survives_newWelcomeTab _).bind_edits fun _ => ?_
  exact tweaks_greet.bind fun _ => tweaks_printLine _

end Studio

/-! ## The states of a session -/

/-- What the user does, and the replies that lie ready for what is asked meanwhile. -/
structure Gesture where
  deed : Deed
  replies : List Value

namespace Studio

open Ledger

/-- The studio after what the user does. -/
def next (studio : Studio) (gesture : Gesture) : Studio :=
  after (thenSettle (follow gesture.deed))
    { studio with site := { studio.site with desk := { replies := gesture.replies } } }

theorem turn_next (studio : Studio) (gesture : Gesture) :
    Turn gesture.deed.Builds studio.ledger (studio.next gesture).ledger := by
  have hturn := turn_follow gesture.deed
    { studio with site := { studio.site with desk := { replies := gesture.replies } } }
  rw [next, ledger_thenSettle]
  exact hturn

end Studio

/-- A session: how the studio starts, and what the user does then. -/
structure Session where
  /-- The styles of frames that are at hand. -/
  styles : List String
  disk : Disk
  /-- The replies that lie ready at the start. -/
  replies : List Value
  isDemo : Bool
  reports : Reports := .typed
  gestures : List Gesture

namespace Session

open Ledger Studio

/-- The studio before its start. -/
def blank (session : Session) : Studio :=
  onDisk session.disk session.replies session.isDemo session.reports

/-- The studio after its start. -/
def first (session : Session) : Studio :=
  after (thenSettle (start session.styles)) session.blank

/-- The studio at the end of a session. -/
def studio (session : Session) : Studio :=
  session.gestures.foldl next session.first

/-- The studio after the start and after each gesture. -/
def states (session : Session) : List Studio :=
  session.gestures.scanl next session.first

theorem launched_first (session : Session) : Launched session.disk session.first.ledger := by
  have hprint : ∀ line studio, printLine line studio = .ok () (after (printLine line) studio) :=
    fun _ _ => rfl
  have hhandle : ∀ trouble : Trouble, Quiet (do
      printLine ("❌ Critical initialization error: " ++ trouble.message)
      throw trouble : Act Unit) := fun trouble =>
    Through.quiet ((tweaks_printLine _).bind fun _ => through_throw trouble)
  rw [first, ledger_thenSettle, start, after_bind_of_ok (hprint _ _), part_attempt _ hhandle]
  refine launched_setUp session.styles ?_ ?_
  · rfl
  · rfl

theorem ledger_foldl_next {holds : Ledger → Prop} {studio : Studio} {gestures : List Gesture}
    (hstart : holds studio.ledger)
    (hturn : ∀ gesture ∈ gestures, ∀ before after, Turn gesture.deed.Builds before after →
      holds before → holds after) :
    holds (gestures.foldl next studio).ledger := by
  induction gestures generalizing studio with
  | nil => exact hstart
  | cons gesture rest ih =>
    rw [List.forall_mem_cons] at hturn
    exact ih (hturn.1 _ _ (turn_next studio gesture) hstart) hturn.2

/-- What the start establishes and every turn keeps holds at the end. -/
theorem ledger_studio {session : Session} {holds : Ledger → Prop}
    (hstart : ∀ ledger, Launched session.disk ledger → holds ledger)
    (hturn : ∀ gesture ∈ session.gestures, ∀ before after, Turn gesture.deed.Builds before after →
      holds before → holds after) :
    holds session.studio.ledger :=
  ledger_foldl_next (hstart _ session.launched_first) hturn

end Session

end ScriptStudio
