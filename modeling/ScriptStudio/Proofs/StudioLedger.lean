import Mathlib.Order.Defs.Unbundled
import ScriptStudio.Proofs.StudioChanges

/-!
# What the studio keeps

Of all that a studio is made of, little decides which files are edited and which settings are kept:
the tabs with their files, the next number of a tab, the settings and the menu of recent files. This
is the ledger of the studio. Most actions leave it alone, also where they fail.

* `Studio.Moves`: an action changes the ledger as a relation says, however it ends.
* `Studio.Quiet`: an action leaves the ledger alone.
* `Studio.Through.quiet`: an action that only edits is quiet.
-/

namespace ScriptStudio

/-- What decides about files and settings. -/
structure Ledger where
  /-- The numbers of the open tabs with their files. -/
  files : List (Nat × Option FileName)
  nextId : Nat
  settings : Preferences.Values
  recentMenu : List RecentItem

namespace Studio

/-- The ledger of a studio. -/
def ledger (studio : Studio) : Ledger where
  files := studio.editors.map fun tab => (tab.1, tab.2.file)
  nextId := studio.notebook.nextId
  settings := studio.preferences
  recentMenu := studio.recentMenu

/-! ## Rules -/

/-- However it ends, the action changes the ledger as the relation says. -/
def Moves {α : Type} (relation : Ledger → Ledger → Prop) (act : Act α) : Prop :=
  ∀ studio, relation studio.ledger (after act studio).ledger

/-- However it ends, the action leaves the ledger alone. -/
abbrev Quiet {α : Type} (act : Act α) : Prop := Leaves ledger act

variable {α β : Type} {relation : Ledger → Ledger → Prop} {act : Act α}

theorem Moves.mono {weaker : Ledger → Ledger → Prop} (h : Moves relation act)
    (himp : ∀ before after, relation before after → weaker before after) : Moves weaker act :=
  fun studio => himp _ _ (h studio)

variable {next : α → Act β} {studio : Studio}

theorem Moves.comp {first : Ledger → Ledger → Prop} (hact : Moves first act)
    (hnext : ∀ a, Moves relation (next a))
    (hend : ∀ before after, first before after → relation before after)
    (hcomp : ∀ before middle after, first before middle → relation middle after →
      relation before after) : Moves relation (act >>= next) := by
  intro studio
  have hfirst := hact studio
  cases hresult : act studio with
  | ok a studio' =>
    rw [after_of_ok hresult] at hfirst
    rw [after_bind_of_ok hresult]
    exact hcomp _ _ _ hfirst (hnext a studio')
  | error trouble studio' =>
    rw [after_of_error hresult] at hfirst
    rw [after_bind_of_error hresult]
    exact hend _ _ hfirst

theorem Moves.bind [IsTrans Ledger relation] (hact : Moves relation act)
    (hnext : ∀ a, Moves relation (next a)) : Moves relation (act >>= next) :=
  hact.comp hnext (fun _ _ h => h) fun _ _ _ h h' => IsTrans.trans _ _ _ h h'

theorem Moves.modify {change : Studio → Studio}
    (h : ∀ studio, relation studio.ledger (change studio).ledger) :
    Moves relation (modify change : Act Unit) := h

section Refl

variable [Std.Refl relation]

theorem Quiet.moves (h : Quiet act) : Moves relation act := by
  intro studio
  rw [h studio]
  exact Std.Refl.refl _

theorem Quiet.bind_moves (hact : Quiet act) {next : α → Act β}
    (hnext : ∀ a, Moves relation (next a)) : Moves relation (act >>= next) :=
  Moves.comp (fun studio => (hact studio).symm) hnext (fun _ _ h => h ▸ Std.Refl.refl _)
    fun _ _ _ h h' => h ▸ h'

end Refl

/-! ## Edits -/

theorem ledger_withEditor (id : Nat) {change : Editor → Editor}
    (h : ∀ editor, (change editor).file = editor.file) :
    (studio.withEditor id change).ledger = studio.ledger := by
  have hfiles : (changeIn id change studio.editors).map (fun tab => (tab.1, tab.2.file)) =
      studio.editors.map fun tab => (tab.1, tab.2.file) := by
    rw [changeIn, List.map_map]
    refine List.map_congr_left fun tab _ => ?_
    dsimp only [Function.comp]
    split
    · rw [h]
    · rfl
  simp only [ledger, withEditor, hfiles, preferences]

theorem Tweak.ledger_eq {studio' : Studio} (h : Tweak studio studio') :
    studio'.ledger = studio.ledger := by
  cases h with
  | besides hcore =>
    exact congrArg (fun core : Core => (⟨core.editors.map fun tab => (tab.1, tab.2.file),
      core.notebook.nextId, core.settings, core.recentMenu⟩ : Ledger)) hcore
  | label id label => rfl
  | mark id hmark => exact ledger_withEditor id fun editor => congrArg Work.file (hmark editor)
  | paint theme =>
    simp only [ledger, painted, preferences, List.map_map]
    rfl

theorem Edit.ledger_eq {studio' : Studio} (h : Edit studio studio') :
    studio'.ledger = studio.ledger := by
  cases h with
  | tweak htweak => exact htweak.ledger_eq
  | change id hfile => exact ledger_withEditor id hfile
  | select id =>
    simp only [ledger, preferences, Notebook.select]
    split <;> rfl
  | openWindow _ => rfl
  | closeWindow id => rfl

theorem Through.quiet (h : Through Edit act) : Quiet act :=
  h.leaves fun _ _ => Edit.ledger_eq

theorem Moves.bind_edits (hact : Moves relation act) (hnext : ∀ a, Through Edit (next a)) :
    Moves relation (act >>= next) := by
  intro studio
  rw [part_bind act fun a => (hnext a).quiet]
  exact hact studio

theorem Moves.attempt {handle : Trouble → Act α} (hact : Moves relation act)
    (hhandle : ∀ trouble, Through Edit (handle trouble)) : Moves relation (attempt act handle) := by
  intro studio
  rw [part_attempt act fun trouble => (hhandle trouble).quiet]
  exact hact studio

theorem Moves.discard (hact : Moves relation act) : Moves relation (discard act) :=
  hact.bind_edits fun _ => through_pure ()

section Refl

variable [Std.Refl relation]

theorem Through.moves (h : Through Edit act) : Moves relation act := h.quiet.moves

theorem Through.bind_moves (hact : Through Edit act) {next : α → Act β}
    (hnext : ∀ a, Moves relation (next a)) : Moves relation (act >>= next) :=
  hact.quiet.bind_moves hnext

end Refl

/-- A window for finding is in no ledger. -/
theorem quiet_showFind (replaces : Bool) : Quiet (showFind replaces) := by
  refine leaves_get.bind fun studio => ?_
  split
  · split
    · exact (tweaks_tell _ _ _).quiet
    · exact fun _ => rfl
  · exact (through_pure ()).quiet

theorem ledger_thenSettle (act : Act Unit) (studio : Studio) :
    (after (thenSettle act) studio).ledger = (after act studio).ledger := by
  rw [after_thenSettle]
  exact tweaks_settle.quiet _

end Studio

end ScriptStudio
