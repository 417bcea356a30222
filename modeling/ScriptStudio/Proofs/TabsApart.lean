import Mathlib.Data.List.Chain
import ScriptStudio.Proofs.StudioSession
import ScriptStudio.Proofs.TextFiles

/-!
# Tabs for one file

Names of files are compared as they are written. A file that is open under one name is opened again
under another, and a tab can be saved to the file of another tab. In these two ways, and in no
other, two tabs come to edit one file.

* `Ledger.Apart`: no two tabs edit one file.
* `Ledger.Clash`: between two states, two tabs have come together.
* `Ledger.Turn.apart`: a turn without a clash keeps tabs apart.
* `Studio.entryAt_save`: saving changes the file of the current tab and no other.
* `Session.apart_iff_not_clash`: the tabs of a session are apart exactly if there is never a clash.
* `Session.not_apart_openingTwice`: a session in which one tab overwrites the file of another.
-/

namespace ScriptStudio

/-- Where on a disk a name leads. -/
def FileName.place (name : FileName) : List String := Disk.placeOf name.path

namespace Ledger

/-- No two tabs are for files at one place. -/
def Apart (ledger : Ledger) : Prop :=
  ∀ id other name name', (id, some name) ∈ ledger.files → (other, some name') ∈ ledger.files →
    name.place = name'.place → id = other

/-- A tab has come to the place of another: it was saved there under a typed name, or it was opened
under a name that is not the same although it leads to the same place. -/
inductive Clash (before after : Ledger) : Prop where
  | saved {id other : Nat} {path : String} {name : FileName} {old : Option FileName}
    (hne : id ≠ other) (hid : (id, some (.typed path)) ∈ after.files)
    (hother : (other, some name) ∈ after.files) (hplace : Disk.placeOf path = name.place)
    (hold : (id, old) ∈ before.files) (hchanged : (id, some (.typed path)) ∉ before.files)
  | opened {id other : Nat} {name name' : FileName} (hne : id ≠ other)
    (hid : (id, some name) ∈ after.files) (hother : (other, some name') ∈ after.files)
    (hplace : name.place = name'.place) (hnew : ∀ old, (id, old) ∉ before.files)
    (hname : name ≠ name')

variable {before after ledger : Ledger} {name : FileName}

theorem Clash.not_apart (h : Clash before after) : ¬ after.Apart := by
  intro hapart
  cases h with
  | saved hne hid hother hplace _ _ => exact hne (hapart _ _ _ _ hid hother hplace)
  | opened hne hid hother hplace _ _ => exact hne (hapart _ _ _ _ hid hother hplace)

/-- Only tabs with files matter for a clash. -/
theorem Clash.mono {after' : Ledger} (h : Clash before after)
    (hfiles : ∀ id name, (id, some name) ∈ after.files → (id, some name) ∈ after'.files) :
    Clash before after' := by
  cases h with
  | saved hne hid hother hplace hold hchanged =>
    exact .saved hne (hfiles _ _ hid) (hfiles _ _ hother) hplace hold hchanged
  | opened hne hid hother hplace hnew hname =>
    exact .opened hne (hfiles _ _ hid) (hfiles _ _ hother) hplace hnew hname

theorem mem_files_added {id : Nat} :
    (id, some name) ∈ ledger.added.files ↔ (id, some name) ∈ ledger.files := by
  simp [added]

/-- Beside a new tab with a file, the tabs are as they were. -/
theorem mem_files_named {name' : FileName} {id : Nat}
    (h : (id, some name') ∈ (ledger.added.named ledger.nextId name).files) :
    id = ledger.nextId ∧ name' = name ∨ (id, some name') ∈ ledger.files := by
  obtain ⟨tab, htab, heq⟩ := List.mem_map.mp h
  split at heq
  · cases heq
    exact .inl ⟨rfl, rfl⟩
  · rw [heq] at htab
    exact .inr (mem_files_added.mp htab)

/-! ## Numbers -/

theorem Keeps.numbered (h : Keeps before after) (hbefore : before.Numbered) : after.Numbered where
  nodup := hbefore.nodup.sublist h.ids
  lt_nextId := by
    intro tab htab
    obtain ⟨old, hold, hid⟩ := List.mem_map.mp (h.ids.subset (List.mem_map_of_mem htab))
    rw [h.nextId, ← hid]
    exact hbefore.lt_nextId old hold

theorem Numbered.named (h : ledger.Numbered) (id : Nat) (name : FileName) :
    (ledger.named id name).Numbered where
  nodup := by
    rw [map_fst_named]
    exact h.nodup
  lt_nextId := by
    intro tab htab
    have hmem : tab.1 ∈ (ledger.named id name).files.map (·.1) := List.mem_map_of_mem htab
    rw [map_fst_named] at hmem
    obtain ⟨old, hold, hid⟩ := List.mem_map.mp hmem
    rw [← hid]
    exact h.lt_nextId old hold

theorem Turn.numbered {mayBuild : Prop} (h : Turn mayBuild before after)
    (hbefore : before.Numbered) : after.Numbered := by
  cases h with
  | themes h =>
    rcases h with rfl | ⟨name, rfl⟩
    · exact hbefore
    · exact ⟨hbefore.nodup, hbefore.lt_nextId⟩
  | folder path => exact ⟨hbefore.nodup, hbefore.lt_nextId⟩
  | closes h =>
    obtain ⟨middle, hkeeps, rfl | rfl⟩ := h
    · exact hkeeps.numbered hbefore
    · exact (hkeeps.numbered hbefore).added
  | opens name hnew => exact hbefore.added.named _ name
  | remembers name hnew hname hrecent disk =>
    have hnamed := hbefore.added.named before.nextId name
    exact ⟨hnamed.nodup, hnamed.lt_nextId⟩

/-! ## Places -/

/-- A tab that is kept has its old file, or it was saved under a typed name. -/
theorem Keeps.apart (h : Keeps before after) (hbefore : before.Apart)
    (hclash : ¬ Clash before after) : after.Apart := by
  -- a tab with a new file comes into a clash with any other at its place
  have hkept : ∀ id other name name', id ≠ other → (id, some name) ∈ after.files →
      (other, some name') ∈ after.files → name.place = name'.place →
      (id, some name) ∈ before.files := by
    intro id other name name' hne hid hother hplace
    by_contra hchanged
    rcases h.files _ hid with hkept | ⟨old, path, hold, hname⟩
    · exact hchanged hkept
    · cases hname
      exact hclash (.saved hne hid hother hplace hold hchanged)
  intro id other name name' hid hother hplace
  by_contra hne
  exact hne (hbefore id other name name' (hkept id other name name' hne hid hother hplace)
    (hkept other id name' name (Ne.symm hne) hother hid hplace.symm) hplace)

/-- A file is opened in a new tab if no tab has its name. -/
theorem apart_opened (hnumbered : ledger.Numbered) (hapart : ledger.Apart)
    (hnew : ∀ id, (id, some name) ∉ ledger.files)
    (hclash : ¬ Clash ledger (ledger.added.named ledger.nextId name)) :
    (ledger.added.named ledger.nextId name).Apart := by
  have hfresh : ∀ old, (ledger.nextId, old) ∉ ledger.files := fun old hold =>
    Nat.lt_irrefl _ (hnumbered.lt_nextId _ hold)
  intro id other name' name'' hid hother hplace
  by_contra hne
  rcases mem_files_named hid with ⟨rfl, rfl⟩ | hid'
  · rcases mem_files_named hother with ⟨rfl, _⟩ | hother'
    · exact hne rfl
    · refine hclash (.opened hne hid hother hplace hfresh ?_)
      rintro rfl
      exact hnew other hother'
  · rcases mem_files_named hother with ⟨rfl, rfl⟩ | hother'
    · refine hclash (.opened (Ne.symm hne) hother hid hplace.symm hfresh ?_)
      rintro rfl
      exact hnew id hid'
    · exact hne (hapart id other name' name'' hid' hother' hplace)

theorem Turn.apart {mayBuild : Prop} (h : Turn mayBuild before after) (hnumbered : before.Numbered)
    (hbefore : before.Apart) (hclash : ¬ Clash before after) : after.Apart := by
  cases h with
  | themes h =>
    rcases h with rfl | ⟨name, rfl⟩
    · exact hbefore
    · exact hbefore
  | folder path => exact hbefore
  | closes h =>
    obtain ⟨middle, hkeeps, rfl | rfl⟩ := h
    · exact hkeeps.apart hbefore hclash
    · have hmiddle := hkeeps.apart hbefore fun h => hclash (h.mono fun _ _ => mem_files_added.mpr)
      intro id other name name' hid hother
      exact hmiddle id other name name' (mem_files_added.mp hid) (mem_files_added.mp hother)
  | opens name hnew => exact apart_opened hnumbered hbefore hnew hclash
  | remembers name hnew hname hrecent disk =>
    exact apart_opened hnumbered hbefore hnew fun h => hclash (h.mono fun _ _ hmem => hmem)

end Ledger

namespace Studio

open Ledger

/-! ## Saving -/

/-- The disk of a studio. -/
def disk (studio : Studio) : Disk := studio.site.disk

theorem leaves_disk_updateTitle : Leaves disk updateTitle := by
  intro studio
  obtain ⟨site, title, notebook, hend, hdisk, _⟩ := updateTitle_eq studio
  rw [after_of_ok hend]
  exact hdisk

theorem leaves_disk_reportUnsaved (trouble : Trouble) : Leaves disk (reportUnsaved trouble) :=
  fun _ => rfl

theorem entryAt_writeEditor (editor : Editor) (path : String) (studio : Studio)
    {place : List String} (hplace : place ≠ Disk.placeOf path) :
    (after (writeEditor editor path) studio).disk.entryAt place =
      studio.disk.entryAt place := by
  rw [writeEditor, after_get_bind]
  cases hwrite : studio.site.disk.writeText path editor.text with
  | error error => rfl
  | ok disk =>
    have hentry := Disk.entryAt_writeText hwrite place
    rw [if_neg hplace] at hentry
    exact hentry

variable {studio : Studio}

/-- Saving the current tab changes what lies at the place of its file, and nothing else. -/
theorem entryAt_save {id : Nat} {editor : Editor} {file : FileName}
    (hcurrent : studio.current? = some (id, editor)) (hfile : editor.file = some file)
    {place : List String} (hplace : place ≠ file.place) :
    (after save studio).disk.entryAt place = studio.disk.entryAt place := by
  have hrest : ∀ _ : Unit, Leaves disk (do
      changeEditor id fun editor => { editor with isModified := false }
      updateTitle
      setStatus ("File saved: " ++ file.base)
      return true) := fun _ =>
    Leaves.bind (fun _ => rfl) fun _ => leaves_disk_updateTitle.bind fun _ =>
      Leaves.bind (fun _ => rfl) fun _ _ => rfl
  rw [save, part_attempt _ leaves_disk_reportUnsaved, after_get_bind]
  simp only [hcurrent, hfile]
  rw [part_bind _ hrest]
  exact entryAt_writeEditor editor file.path studio hplace

theorem mem_files_of_current? {id : Nat} {editor : Editor}
    (h : studio.current? = some (id, editor)) : (id, editor.file) ∈ studio.ledger.files :=
  List.mem_map.mpr ⟨(id, editor), (selected_and_mem_of_current? h).2, rfl⟩

/-- Saving the current tab leaves the files of all other tabs alone. -/
def SavesAlone (studio : Studio) : Prop :=
  ∀ id editor file, studio.current? = some (id, editor) → editor.file = some file →
    ∀ other name, (other, some name) ∈ studio.ledger.files → other ≠ id →
      (after save studio).disk.entryAt name.place = studio.disk.entryAt name.place

theorem savesAlone_of_apart (h : studio.ledger.Apart) : studio.SavesAlone := by
  intro id editor file hcurrent hfile other name hother hne
  refine entryAt_save hcurrent hfile fun hplace => hne ?_
  have hid := mem_files_of_current? hcurrent
  rw [hfile] at hid
  exact h other id name file hother hid hplace

end Studio

namespace Session

open Ledger Studio

/-! ## Sessions -/

theorem exists_scanl_next (studio : Studio) (gestures : List Gesture) :
    ∃ later, gestures.scanl next studio = studio :: later := by
  cases gestures with
  | nil => exact ⟨[], by simp⟩
  | cons gesture rest => exact ⟨rest.scanl next (studio.next gesture), by simp⟩

theorem apart_scanl_next {studio : Studio} {gestures : List Gesture}
    (hnumbered : studio.ledger.Numbered) (hapart : studio.ledger.Apart)
    (hchain : (gestures.scanl next studio).IsChain fun before after =>
      ¬ Clash before.ledger after.ledger) :
    ∀ state ∈ gestures.scanl next studio, state.ledger.Apart := by
  induction gestures generalizing studio with
  | nil => simpa using hapart
  | cons gesture rest ih =>
    obtain ⟨later, hlater⟩ := exists_scanl_next (studio.next gesture) rest
    rw [List.scanl_cons, hlater, List.isChain_cons_cons] at hchain
    have hturn := turn_next studio gesture
    have hnext := ih (hturn.numbered hnumbered) (hturn.apart hnumbered hapart hchain.1)
      (by rw [hlater]; exact hchain.2)
    rw [List.scanl_cons]
    exact List.forall_mem_cons.mpr ⟨hapart, hnext⟩

theorem apart_of_launched {disk : Disk} {ledger : Ledger} (h : Launched disk ledger) :
    ledger.Apart := by
  intro id other name name' hid
  cases h.files _ hid

/-- In every session, no two tabs ever edit one file exactly if no two ever come together, by a save
under the name of another tab's file or by opening a file under a second name. As long as tabs are
apart, saving one leaves the files of all others alone. -/
theorem apart_iff_not_clash (session : Session) :
    ((∀ studio ∈ session.states, studio.ledger.Apart) ↔
      session.states.IsChain fun before after => ¬ Clash before.ledger after.ledger) ∧
    ∀ studio ∈ session.states, studio.ledger.Apart → studio.SavesAlone := by
  have hlaunched := session.launched_first
  refine ⟨⟨fun h => ?_, fun hchain => ?_⟩, fun studio _ => savesAlone_of_apart⟩
  · refine List.Pairwise.isChain (List.pairwise_of_forall_mem_list fun before _ after hafter => ?_)
    exact fun hclash => hclash.not_apart (h after hafter)
  · exact apart_scanl_next hlaunched.numbered (apart_of_launched hlaunched) hchain

/-- One file is opened under two names, and text is typed into the second tab. -/
def openingTwice : Session where
  styles := ["clam"]
  disk := ⟨[(["a.doro"], .file [])]⟩
  replies := []
  isDemo := false
  gestures := [⟨.key "<Control-o>", [.text "a.doro"]⟩, ⟨.key "<Control-o>", [.text "./a.doro"]⟩,
    ⟨.type "say 1", []⟩]

theorem files_openingTwice : openingTwice.studio.ledger.files =
    [(1, none), (2, some (.typed "a.doro")), (3, some (.typed "./a.doro"))] := by
  decide +kernel

/-- Here saving the second tab overwrites the file of the first. -/
theorem not_apart_openingTwice :
    ¬ openingTwice.studio.ledger.Apart ∧ ¬ openingTwice.studio.SavesAlone := by
  have hfirst : (2, some (.typed "a.doro")) ∈ openingTwice.studio.ledger.files := by
    rw [files_openingTwice]
    decide
  have hsecond : (3, some (.typed "./a.doro")) ∈ openingTwice.studio.ledger.files := by
    rw [files_openingTwice]
    decide
  have hplace : (FileName.typed "a.doro").place = ["a.doro"] := by decide +kernel
  have hcurrent : openingTwice.studio.current?.map (fun tab => (tab.1, tab.2.file)) =
      some (3, some (.typed "./a.doro")) := by
    decide +kernel
  have hsaved : (after save openingTwice.studio).disk.entryAt ["a.doro"] ≠
      openingTwice.studio.disk.entryAt ["a.doro"] := by
    decide +kernel
  constructor
  · intro hapart
    have hsame : 2 = 3 := hapart 2 3 _ _ hfirst hsecond (by decide +kernel)
    exact absurd hsame (by decide)
  · intro halone
    obtain ⟨⟨id, editor⟩, hcurrent, htab⟩ := Option.map_eq_some_iff.mp hcurrent
    obtain ⟨rfl, hfile⟩ := Prod.mk.inj htab
    have hkept := halone 3 editor _ hcurrent hfile 2 _ hfirst (by decide)
    rw [hplace] at hkept
    exact hsaved hkept

end Session

end ScriptStudio
