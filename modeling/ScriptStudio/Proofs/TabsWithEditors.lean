import Mathlib.Data.List.Basic
import ScriptStudio.Proofs.StudioShifts

/-!
# Tabs and their editors

The notebook and the list of editors are changed one after the other, and questions, refusals and
troubles come in between. After every deed they still agree: each tab has one editor and each editor
one tab, in the same order. So there is a current editor as long as there is any tab.

* `Notebook.Sound`: numbers are used once, and some tab is selected as long as there is any.
* `Studio.Paired`: the editors are those of the tabs.
* `Session.paired_states`: both hold in every state of a session.
-/

namespace ScriptStudio

/-! ## Notebooks -/

namespace Notebook

variable {notebook : Notebook}

theorem ids_add (notebook : Notebook) (label : String) :
    (notebook.add label).ids = notebook.ids ++ [notebook.nextId] :=
  List.map_append

theorem ids_select (notebook : Notebook) (id : Nat) : (notebook.select id).ids = notebook.ids := by
  unfold select
  split <;> rfl

theorem ids_forget (notebook : Notebook) (id : Nat) :
    (notebook.forget id).ids = notebook.ids.filter (· != id) := by
  simp only [ids, forget, List.filter_map]
  rfl

theorem ids_relabel (notebook : Notebook) (id : Nat) (label : String) :
    (notebook.relabel id label).ids = notebook.ids := by
  simp only [ids, relabel, List.map_map]
  refine List.map_congr_left fun tab _ => ?_
  dsimp only [Function.comp]
  split <;> rfl

/-- The selected tab is there, and none is selected only if there is none. -/
def Selects (notebook : Notebook) : Prop :=
  match notebook.selected with
  | some id => id ∈ notebook.ids
  | none => notebook.ids = []

/-- No number is used for two tabs or will be used again, and some tab is selected as long as there
is any. -/
structure Sound (notebook : Notebook) : Prop where
  nodup : notebook.ids.Nodup
  lt_nextId : ∀ id ∈ notebook.ids, id < notebook.nextId
  selects : notebook.Selects

theorem Sound.relabel (h : notebook.Sound) (id : Nat) (label : String) :
    (notebook.relabel id label).Sound where
  nodup := by
    rw [ids_relabel]
    exact h.nodup
  lt_nextId := by
    rw [ids_relabel]
    exact h.lt_nextId
  selects := by
    have hselects := h.selects
    unfold Selects at hselects ⊢
    rw [ids_relabel]
    exact hselects

theorem Sound.select (h : notebook.Sound) (id : Nat) : (notebook.select id).Sound := by
  unfold Notebook.select
  split
  · rename_i hid
    exact ⟨h.nodup, h.lt_nextId, List.contains_iff_mem.mp hid⟩
  · exact h

theorem Sound.add (h : notebook.Sound) (label : String) : (notebook.add label).Sound where
  nodup := by
    rw [ids_add, List.nodup_append]
    refine ⟨h.nodup, List.pairwise_singleton _ _, ?_⟩
    intro id hid other hother
    rw [List.mem_singleton.mp hother]
    exact Nat.ne_of_lt (h.lt_nextId id hid)
  lt_nextId := by
    intro id hid
    rw [ids_add, List.mem_append, List.mem_singleton] at hid
    rcases hid with hid | rfl
    · exact Nat.lt_succ_of_lt (h.lt_nextId id hid)
    · exact Nat.lt_succ_self _
  selects := by
    have hselects := h.selects
    unfold Selects at hselects ⊢
    rw [ids_add]
    cases htabs : notebook.tabs with
    | nil => simp [Notebook.add, htabs]
    | cons tab rest =>
      cases hselected : notebook.selected with
      | none =>
        rw [hselected] at hselects
        simp [ids, htabs] at hselects
      | some id =>
        rw [hselected] at hselects
        simp only [Notebook.add, htabs, hselected, List.isEmpty_cons, Bool.false_eq_true, if_false]
        exact List.mem_append_left _ hselects

theorem heir_cases (tabs : List Tab) (place : Nat) :
    tabs = [] ∧ (tabs[place]? <|> tabs.getLast?) = none ∨
      ∃ tab ∈ tabs, (tabs[place]? <|> tabs.getLast?) = some tab := by
  cases hplace : tabs[place]? with
  | some tab => exact .inr ⟨tab, List.mem_of_getElem? hplace, rfl⟩
  | none =>
    cases hlast : tabs.getLast? with
    | some tab => exact .inr ⟨tab, List.mem_of_getLast? hlast, rfl⟩
    | none => exact .inl ⟨List.getLast?_eq_none_iff.mp hlast, rfl⟩

theorem Sound.forget (h : notebook.Sound) (id : Nat) : (notebook.forget id).Sound where
  nodup := by
    rw [ids_forget]
    exact h.nodup.filter _
  lt_nextId := by
    intro other hother
    rw [ids_forget] at hother
    exact h.lt_nextId other (List.mem_of_mem_filter hother)
  selects := by
    unfold Selects
    -- Only where the selected tab itself goes, another one is selected.
    by_cases hselected : notebook.selected = some id
    · simp only [Notebook.forget, ids, hselected, beq_self_eq_true, if_true]
      obtain ⟨hnone, hheir⟩ | ⟨tab, htab, hheir⟩ :=
        heir_cases (notebook.tabs.filter (·.id != id)) ((notebook.tabs.map (·.id)).idxOf id)
      · rw [hheir, hnone]
        rfl
      · rw [hheir]
        exact List.mem_map_of_mem htab
    · have hselects := h.selects
      unfold Selects at hselects
      rw [ids_forget]
      simp only [Notebook.forget, beq_iff_eq, hselected, if_false]
      cases hother : notebook.selected with
      | none =>
        rw [hother] at hselects
        rw [hselects]
        rfl
      | some other =>
        rw [hother] at hselects hselected
        have hne : other ≠ id := fun heq => hselected (congrArg some heq)
        exact List.mem_filter.mpr ⟨hselects, bne_iff_ne.mpr hne⟩

end Notebook

/-! ## Elementary changes -/

namespace Studio

/-- The tabs are in order, and the editors are those of the tabs. -/
structure Paired (studio : Studio) : Prop where
  sound : studio.notebook.Sound
  keys : studio.editors.map (·.1) = studio.notebook.ids

variable {studio studio' : Studio}

theorem Paired.withEditor (h : studio.Paired) (id : Nat) (change : Editor → Editor) :
    (studio.withEditor id change).Paired :=
  ⟨h.sound, (map_fst_changeIn id change studio.editors).trans h.keys⟩

theorem Tweak.paired (hstep : Tweak studio studio') (h : studio.Paired) : studio'.Paired := by
  cases hstep with
  | besides hcore =>
    have hnotebook : studio'.notebook = studio.notebook := congrArg Core.notebook hcore
    have heditors : studio'.editors = studio.editors := congrArg Core.editors hcore
    exact ⟨hnotebook ▸ h.sound, by rw [hnotebook, heditors, h.keys]⟩
  | label id label =>
    exact ⟨h.sound.relabel id label, h.keys.trans (Notebook.ids_relabel _ id label).symm⟩
  | mark id _ => exact h.withEditor id _
  | paint theme =>
    refine ⟨h.sound, Eq.trans ?_ h.keys⟩
    rw [painted, List.map_map]
    rfl

theorem Edit.paired (hstep : Edit studio studio') (h : studio.Paired) : studio'.Paired := by
  cases hstep with
  | tweak htweak => exact htweak.paired h
  | change id _ => exact h.withEditor id _
  | select id => exact ⟨h.sound.select id, h.keys.trans (Notebook.ids_select _ id).symm⟩
  | openWindow _ => exact ⟨h.sound, h.keys⟩
  | closeWindow id => exact ⟨h.sound, h.keys⟩

theorem Paired.withTab (h : studio.Paired) (theme : Theme) :
    (studio.withTab theme).Paired where
  sound := (h.sound.add "Untitled *").select _
  keys := by
    rw [Studio.withTab, List.map_append, h.keys, Notebook.ids_select, Notebook.ids_add]
    rfl

theorem Paired.withoutTab (h : studio.Paired) (id : Nat) :
    (studio.withoutTab id).Paired where
  sound := h.sound.forget id
  keys := by
    rw [Studio.withoutTab, Notebook.ids_forget, ← h.keys, List.filter_map]
    rfl

theorem Shift.paired {allowed : Notable → Prop} (hstep : Shift allowed studio studio')
    (h : studio.Paired) : studio'.Paired := by
  cases hstep with
  | edit hedit => exact hedit.paired h
  | name id file => exact h.withEditor id _
  | remember recentFiles lastFolder recentMenu => exact ⟨h.sound, h.keys⟩
  | fill hwindow entry => exact ⟨h.sound, h.keys⟩
  | add theme _ => exact h.withTab theme
  | drop id _ => exact h.withoutTab id
  | theme theme _ => exact ⟨h.sound, h.keys⟩
  | find hcurrent replaces _ => exact ⟨h.sound, h.keys⟩

/-! ## The current editor -/

/-- There is a current editor as long as there is any tab. -/
theorem Paired.current?_eq_none_iff (h : studio.Paired) :
    studio.current? = none ↔ studio.notebook.tabs = [] := by
  have hselects := h.sound.selects
  unfold Notebook.Selects at hselects
  rw [current?]
  cases hselected : studio.notebook.selected with
  | none =>
    rw [hselected] at hselects
    simpa using List.map_eq_nil_iff.mp hselects
  | some id =>
    rw [hselected, ← h.keys] at hselects
    obtain ⟨tab, htab, rfl⟩ := List.mem_map.mp hselects
    have hlookup : studio.editors.lookup tab.1 ≠ none := by
      intro hnone
      have hne := List.lookup_eq_none_iff.mp hnone tab htab
      simp at hne
    have htabs : studio.notebook.tabs ≠ [] := by
      intro hnil
      rw [h.keys, Notebook.ids, hnil] at hselects
      cases hselects
    simp [hlookup, htabs]

end Studio

/-! ## Sessions -/

namespace Session

open Studio

theorem paired_states (session : Session) : ∀ studio ∈ session.states, studio.Paired := by
  refine survives_states (fun _ _ => Shift.paired) ⟨⟨List.nodup_nil, ?_, rfl⟩, rfl⟩
  simp [blank, onDisk, Notebook.ids]

/-- In every state of a session, the editors are exactly those of the tabs, each once, and there is
a current editor as long as there is any tab. -/
theorem editors_match_tabs (session : Session) :
    ∀ studio ∈ session.states,
      studio.editors.map (·.1) = studio.notebook.ids ∧ studio.notebook.ids.Nodup ∧
        (studio.current? = none ↔ studio.notebook.tabs = []) := by
  intro studio hstudio
  have hpaired := session.paired_states studio hstudio
  exact ⟨hpaired.keys, hpaired.sound.nodup, hpaired.current?_eq_none_iff⟩

/-- A missing file leaves an empty tab, the user does not let go of a changed one, and then the
first two of the three tabs are closed. -/
def closingAround : Session where
  styles := ["clam"]
  disk := ⟨[]⟩
  replies := []
  isDemo := false
  gestures := [⟨.key "<Control-o>", [.text "gone.doro"]⟩, ⟨.key "<Control-n>", []⟩,
    ⟨.type "say 1", []⟩, ⟨.key "<Control-w>", []⟩, ⟨.clickCross 0, []⟩, ⟨.clickCross 0, []⟩]

theorem editors_match_tabs_closingAround :
    closingAround.studio ∈ closingAround.states ∧ closingAround.studio.notebook.ids = [3] ∧
      closingAround.studio.editors.map (·.1) = closingAround.studio.notebook.ids ∧
        closingAround.studio.notebook.ids.Nodup ∧
          (closingAround.studio.current? = none ↔ closingAround.studio.notebook.tabs = []) := by
  refine ⟨studio_mem_states _, ?_, editors_match_tabs _ _ (studio_mem_states _)⟩
  decide +kernel

end Session

end ScriptStudio
