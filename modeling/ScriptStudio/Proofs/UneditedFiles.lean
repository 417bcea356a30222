import ScriptStudio.Proofs.EncodedText
import ScriptStudio.Proofs.FailedOpening
import ScriptStudio.Proofs.FindInView
import ScriptStudio.Proofs.SettingsSurvive
import ScriptStudio.Proofs.TabsApart

/-!
# Files that are opened and saved unedited

Reading a file makes line feeds of its carriage returns, and no one keeps where they were. So a tab
that is saved as it was opened writes the file with its line ends unified, and these are the same
octets exactly if there was no carriage return. The settings are written while a file is opened,
also if it is the settings file itself that is opened.

* `Studio.view`: the tab in view and the work in its editor.
* `Studio.view_openFile`: a new tab has the text of its file.
* `Studio.KeepsFile`: a change of the studio leaves a file at a path.
* `Studio.save_of_unedited`: what saving writes.
* `Session.readOctets_save_opened`: opening and saving together.
-/

namespace ScriptStudio

open Text

theorem Buffer.text_setText (buffer : Buffer) (chars : List Char) (intake : Intake) :
    (buffer.setText chars intake).text = intake.taken chars := by
  have hcleared : (buffer.delete 0 buffer.size).text = [] := by
    have hstop : min buffer.size buffer.text.length = buffer.text.length := by
      rw [Nat.min_eq_right]
      simp [size]
    rw [delete_stays, cut, hstop]
    dsimp only
    split
    · rename_i hempty
      exact List.length_eq_zero_iff.mp (Nat.le_zero.mp hempty)
    · exact List.drop_length
  simp [setText, insert, hcleared]

namespace Disk

variable {disk : Disk} {path : String}

/-- A path that a slash ends leads to no file. -/
theorem entryAt_of_locate {location : List String} (hslash : Path.endsWithSlash path = true)
    (h : disk.locate path = .ok location) (octets : List Octet) :
    disk.entryAt location ≠ some (.file octets) := by
  intro hentry
  unfold locate at h
  rw [hslash] at h
  cases hlength : checkLength path with
  | error fault =>
    rw [hlength] at h
    cases h
  | ok _ =>
    cases hwalk : disk.walk (startOf path) (Path.steps path) with
    | error fault =>
      rw [hlength, hwalk] at h
      cases h
    | ok found =>
      rw [hlength, hwalk] at h
      dsimp only [bind, Except.bind] at h
      split at h
      · cases h
      · rename_i hother
        cases h
        exact hother rfl (by rw [hentry]; rfl)

/-- A file lies at the path, and it can be opened. -/
def HoldsFile (disk : Disk) (path : String) : Prop := ∃ octets, disk.readOctets path = .ok octets

theorem readOctets_eq_ok_iff {octets : List Octet} :
    disk.readOctets path = .ok octets ↔ ∃ location,
      disk.locateOrFail path = .ok location ∧ disk.entryAt location = some (.file octets) := by
  unfold readOctets
  cases disk.locateOrFail path with
  | error error => simp [bind, Except.bind]
  | ok location =>
    simp only [bind, Except.bind, Except.ok.injEq, exists_eq_left']
    split <;> simp [*, throw, throwThe, MonadExceptOf.throw, pure, Except.pure]

theorem HoldsFile.exists_location (h : disk.HoldsFile path) :
    Path.endsWithSlash path = false ∧ ∃ location octets,
      disk.locateOrFail path = .ok location ∧ disk.entryAt location = some (.file octets) := by
  obtain ⟨octets, hread⟩ := h
  obtain ⟨location, hlocated, hentry⟩ := readOctets_eq_ok_iff.mp hread
  refine ⟨?_, location, octets, hlocated, hentry⟩
  by_contra hslash
  exact entryAt_of_locate (Bool.not_eq_false _ ▸ hslash) (orFail_eq_ok_iff.mp hlocated).2
    octets hentry

theorem HoldsFile.exists_writeText (h : disk.HoldsFile path) (text : String) :
    ∃ after, disk.writeText path text = .ok after := by
  obtain ⟨hslash, location, octets, hlocated, hentry⟩ := h.exists_location
  have hwriting : disk.locateForWriting path = disk.locate path := by
    rw [locateForWriting, hslash]
    rfl
  rw [writeText, writeOctets, hwriting, ← locateOrFail, hlocated]
  dsimp only [bind, Except.bind]
  rw [hentry]
  exact ⟨_, rfl⟩

theorem HoldsFile.writeText {after : Disk} {other text : String}
    (hwrite : disk.writeText other text = .ok after) (h : disk.HoldsFile path) :
    after.HoldsFile path := by
  obtain ⟨hslash, location, octets, hlocated, hentry⟩ := h.exists_location
  have hafter := entryAt_writeText hwrite location
  obtain ⟨-, -, hplace, rfl⟩ := writeText_eq hwrite
  rw [hentry] at hafter
  split_ifs at hafter
  · exact ⟨_, readOctets_eq_ok_iff.mpr ⟨_, locateOrFail_put hplace hslash hlocated, hafter⟩⟩
  · exact ⟨_, readOctets_eq_ok_iff.mpr ⟨_, locateOrFail_put hplace hslash hlocated, hafter⟩⟩

end Disk

namespace Studio

variable {studio studio' : Studio} {name : FileName} {path : String} {α : Type} {act : Act α}

/-! ## The tab in view -/

/-- The tab in view and the work in its editor. -/
def view (studio : Studio) : Option (Nat × Work) :=
  studio.current?.map fun (id, editor) => (id, editor.work)

/-- The work in an editor is looked up as the editor is. -/
theorem view_eq (studio : Studio) :
    studio.view = studio.notebook.selected.bind fun id =>
      ((studio.editors.lookup id).map Editor.work).map (id, ·) := by
  rw [view, current?]
  cases studio.notebook.selected with
  | none => rfl
  | some id =>
    rw [Option.bind_some, Option.bind_some]
    cases studio.editors.lookup id <;> rfl

/-- Editors in which the work is the same show the same. -/
theorem view_of_map {change : Nat → Editor → Editor}
    (hchange : ∀ id editor, (change id editor).work = editor.work)
    (hselected : studio'.notebook.selected = studio.notebook.selected)
    (heditors : studio'.editors = studio.editors.map fun tab => (tab.1, change tab.1 tab.2)) :
    studio'.view = studio.view := by
  rw [view_eq, view_eq, hselected, heditors]
  congr 1
  funext id
  have hwork : Editor.work ∘ change id = Editor.work := funext (hchange id)
  refine congrArg (Option.map (id, ·)) ?_
  rw [lookup_map change id studio.editors, Option.map_map, hwork]

theorem Tweak.view_eq (hstep : Tweak studio studio') : studio'.view = studio.view := by
  cases hstep with
  | besides hcore =>
    have hnotebook : studio'.notebook = studio.notebook := congrArg Core.notebook hcore
    have heditors : studio'.editors = studio.editors := congrArg Core.editors hcore
    rw [view, view, current?, current?, hnotebook, heditors]
  | label id label => rfl
  | @mark id change h =>
    have hchange : ∀ other editor, (if other = id then change editor else editor).work =
        editor.work := by
      intro other editor
      split
      · exact h editor
      · rfl
    exact view_of_map hchange rfl rfl
  | paint theme =>
    have hchange : ∀ (_ : Nat) (editor : Editor), Editor.work { editor with theme } = editor.work :=
      fun _ _ => rfl
    exact view_of_map hchange rfl rfl

theorem Through.leaves_view (h : Through Tweak act) : Leaves view act :=
  h.leaves fun _ _ => Tweak.view_eq

theorem leaves_view_remember (name : FileName) : Leaves view (do
    rememberFile name
    refreshRecentMenu
    saveSettings) := by
  refine Leaves.bind ?_ fun _ => Leaves.bind ?_ fun _ => Through.leaves_view tweaks_saveSettings
  · refine leaves_get.bind fun studio => Leaves.bind ?_ fun _ => leaves_modify fun _ => rfl
    exact (through_orTrouble _).leaves_view
  · refine leaves_get.bind fun studio => ?_
    split
    refine Leaves.bind (leaves_modify fun _ => rfl) fun _ => ?_
    split
    · exact Through.leaves_view (tweaks_printLine _)
    · exact fun _ => rfl

/-- A new tab is current, with nothing in it. -/
theorem current?_withTab (hpaired : studio.Paired) (theme : Theme) :
    (studio.withTab theme).current? = some (studio.notebook.nextId, { theme := theme }) := by
  have hfresh : studio.editors.lookup studio.notebook.nextId = none := by
    rw [List.lookup_eq_none_iff]
    intro tab htab
    have hid : tab.1 ∈ studio.notebook.ids := hpaired.keys ▸ List.mem_map_of_mem htab
    have hlt := hpaired.sound.lt_nextId _ hid
    exact bne_iff_ne.mpr (Nat.ne_of_gt hlt)
  rw [current?, withTab, Notebook.select_add]
  dsimp only
  rw [Option.bind_some, List.lookup_append, hfresh]
  simp

theorem view_readInto {id : Nat} {theme : Theme} {text : String} (intake : Intake)
    (hcurrent : studio.current? = some (id, { theme := theme }))
    (htext : studio.site.disk.readText name.path = .ok text) :
    ∃ work, (after (readInto id name intake) studio).view = some (id, work) ∧
      work.file = some name ∧ work.text = intake.taken text.toList := by
  have hread : orTrouble ((studio.site.disk.readText name.path).mapError .disk) studio =
      .ok text studio := by
    rw [htext]
    rfl
  -- The highlights and the report that are let wait show nowhere.
  have hset : (after (setText id text intake) studio).view =
      some (id, (Editor.setText { theme := theme } text intake).work) := by
    have hwait : ∀ _ : Unit, Leaves view (do
        scheduleHighlight id
        scheduleReport id) := fun _ =>
      Through.leaves_view ((tweaks_scheduleHighlight id).bind fun _ => tweaks_scheduleReport id)
    rw [setText, part_bind _ hwait]
    exact congrArg (Option.map _) (current?_withEditor hcurrent (·.setText text intake))
  obtain ⟨⟨_, editor⟩, hshown, hsame⟩ := Option.map_eq_some_iff.mp hset
  obtain ⟨rfl, hwork⟩ := Prod.mk.inj hsame
  rw [readInto, after_get_bind, after_bind_of_ok hread,
    after_bind_of_ok (setText_ok _ text intake studio), changeEditor, after_modify_bind,
    leaves_view_remember name]
  have hnamed := current?_withEditor hshown fun editor =>
    { editor with file := some name, isModified := false }
  refine ⟨_, congrArg (Option.map _) hnamed, rfl, ?_⟩
  have htaken : (Editor.setText { theme := theme } text intake).work.text =
      intake.taken text.toList := Buffer.text_setText _ _ intake
  have hkept : editor.buffer.text = _ := congrArg Work.text hwork
  exact hkept.trans htaken

theorem leaves_view_reportUnmade (trouble : Trouble) : Leaves view (do
    printLine ("Error creating new tab: " ++ trouble.message)
    tell .error "Error" ("Failed to create tab: " ++ trouble.message)) :=
  Through.leaves_view ((tweaks_printLine _).bind fun _ => tweaks_tell _ _ _)

/-- A file that no tab shows yet comes into view with its text, also if it cannot be remembered. -/
theorem view_openFile (hpaired : studio.Paired) (hnew : studio.tabOf? name = none) {text : String}
    (htext : studio.site.disk.readText name.path = .ok text) (htheme : ValidTheme studio.theme)
    (intake : Intake) :
    ∃ work, (after (openFile name intake) studio).view = some (studio.notebook.nextId, work) ∧
      work.file = some name ∧ work.text = intake.taken text.toList := by
  obtain ⟨theme, htheme⟩ := htheme
  have hokay : orTrouble (themeOf studio.theme) studio = .ok theme studio := by
    rw [htheme]
    rfl
  obtain ⟨tasks, hadd⟩ := addTab_eq theme studio
  have hstatus : ∀ _ : Unit, Leaves view (setStatus ("File opened: " ++ name.base)) :=
    fun _ => leaves_modify fun _ => rfl
  have htitle : ∀ _ : Unit, Leaves view updateTitle := fun _ =>
    Through.leaves_view tweaks_updateTitle
  rw [openFile, after_get_bind]
  simp only [hnew]
  rw [part_bind _ hstatus, newTab, part_attempt _ leaves_view_reportUnmade, after_get_bind,
    after_bind_of_ok hokay, after_bind_of_ok hadd, part_bind _ htitle]
  exact view_readInto intake (current?_withTab hpaired theme) htext

/-! ## Files stay -/

theorem aside_disk : Aside disk where
  write _ _ := rfl
  print _ _ := rfl
  machine _ _ := rfl
  editor _ _ _ := rfl
  title := leaves_disk_updateTitle
  status := by
    refine leaves_modify fun studio => ?_
    split <;> rfl

/-- If there was a file at the path that could be opened, there is one still. -/
def KeepsFile (path : String) (studio studio' : Studio) : Prop :=
  studio.disk.HoldsFile path → studio'.disk.HoldsFile path

theorem Leaves.keepsFile (h : Leaves disk act) (path : String) : Through (KeepsFile path) act := by
  intro studio
  refine .single fun hfile => ?_
  rw [h studio]
  exact hfile

theorem keepsFile_saveSettings (path : String) : Through (KeepsFile path) saveSettings := by
  intro studio
  refine .single fun hfile => ?_
  rw [disk, disk_saveSettings, Preferences.save]
  split
  cases hwrite : studio.site.disk.writeText Preferences.path _ with
  | error error => exact hfile
  | ok after => exact Disk.HoldsFile.writeText hwrite hfile

theorem keepsFile_refreshRecentMenu (path : String) :
    Through (KeepsFile path) refreshRecentMenu := by
  refine through_get.bind fun studio => ?_
  split
  refine Through.bind (Leaves.keepsFile (fun _ => rfl) path) fun _ => ?_
  split
  · exact Leaves.keepsFile (aside_disk.print _) path
  · exact through_pure ()

theorem leaves_disk_setText (id : Nat) (text : String) (intake : Intake) :
    Leaves disk (setText id text intake) := by
  refine (aside_disk.editor _ _).bind fun _ => Leaves.bind (leaves_modify fun _ => rfl) fun _ =>
    leaves_get.bind fun studio => ?_
  dsimp only
  split
  · exact (aside_disk.editor _ _).bind fun _ => leaves_modify fun _ => rfl
  · exact fun _ => rfl

theorem keepsFile_readInto (path : String) (id : Nat) (name : FileName) (intake : Intake) :
    Through (KeepsFile path) (readInto id name intake) := by
  refine through_get.bind fun studio => (through_orTrouble _).bind fun text => ?_
  refine Through.bind (Leaves.keepsFile (leaves_disk_setText _ _ _) path) fun _ => ?_
  refine Through.bind (Leaves.keepsFile (aside_disk.editor _ _) path) fun _ => ?_
  refine Through.bind ?_ fun _ =>
    (keepsFile_refreshRecentMenu path).bind fun _ => keepsFile_saveSettings path
  exact through_get.bind fun studio => (through_orTrouble _).bind fun recent =>
    Leaves.keepsFile (fun _ => rfl) path

theorem keepsFile_openFile (path : String) (name : FileName) (intake : Intake) :
    Through (KeepsFile path) (openFile name intake) := by
  refine through_get.bind fun studio => ?_
  split
  · rename_i id hshown
    refine Leaves.keepsFile (fun studio => ?_) path
    obtain ⟨tasks, hselect⟩ := changeNotebook_eq (·.select id) studio
    rw [selectTab, after_of_ok hselect]
    rfl
  · refine Through.bind (Through.attempt ?_ fun trouble => ?_) fun _ =>
      Leaves.keepsFile (fun _ => rfl) path
    · refine through_get.bind fun studio => (through_orTrouble _).bind fun theme => ?_
      have hadd : Leaves disk (addTab theme) := by
        intro studio
        obtain ⟨tasks, hadd⟩ := addTab_eq theme studio
        rw [after_of_ok hadd]
        rfl
      exact (hadd.keepsFile path).bind fun id =>
        (keepsFile_readInto path id name intake).bind fun _ =>
          Leaves.keepsFile aside_disk.title path
    · exact Leaves.keepsFile (fun _ => rfl) path

theorem keepsFile_settle (path : String) : Through (KeepsFile path) settle :=
  through_get.bind fun _ => Through.bind (Leaves.keepsFile (fun _ => rfl) path) fun _ =>
    Leaves.keepsFile (aside_disk.doTasks _) path

theorem holdsFile_opened (name : FileName) (intake : Intake) (h : studio.disk.HoldsFile path) :
    (after (thenSettle (openFile name intake)) studio).disk.HoldsFile path := by
  rw [after_thenSettle]
  have hchain := (keepsFile_openFile path name intake studio).trans (keepsFile_settle path _)
  exact survives_chain (fun later => later.disk.HoldsFile path) (fun _ _ hstep => hstep) hchain h

/-! ## Saving -/

/-- The tab of the number is in view, it is for the file, the text in it is the one given, and the
file is still there. -/
structure Unedited (studio : Studio) (id : Nat) (name : FileName) (text : List Char) : Prop where
  view : ∃ work, studio.view = some (id, work) ∧ work.file = some name ∧ work.text = text
  file : studio.disk.HoldsFile name.path

/-- Saving writes the text of the tab in view to its file. -/
theorem save_of_unedited {id : Nat} {text : List Char} (h : studio.Unedited id name text) :
    ∃ saved, save studio = .ok true saved ∧
      saved.disk.readOctets name.path = .ok (encodeUtf8 text) := by
  obtain ⟨work, hview, hfile, rfl⟩ := h.view
  obtain ⟨⟨id, editor⟩, hcurrent, hwork⟩ := Option.map_eq_some_iff.mp hview
  cases hwork
  have hfile : editor.file = some name := hfile
  obtain ⟨disk, hwrite⟩ := h.file.exists_writeText editor.text
  let written : Studio := { studio with site := { studio.site with disk := disk } }
  have hwritten : writeEditor editor name.path studio = .ok () written := by
    rw [writeEditor, get_bind_apply]
    rw [show studio.site.disk.writeText name.path editor.text = .ok disk from hwrite]
    rfl
  have hmarked : ∀ change, changeEditor id change written = .ok () (written.withEditor id change) :=
    fun _ => rfl
  obtain ⟨site, title, notebook, htitle, hdisk, -⟩ :=
    updateTitle_eq (written.withEditor id fun editor => { editor with isModified := false })
  have hread : site.disk.readOctets name.path = .ok (encodeUtf8 editor.buffer.text) := by
    rw [hdisk, ← String.toList_ofList (l := editor.buffer.text)]
    exact Disk.readOctets_writeText hwrite
  unfold save attempt
  rw [get_bind_apply]
  simp only [hcurrent, hfile]
  rw [bind_of_ok hwritten, bind_of_ok (hmarked _), bind_of_ok htitle]
  exact ⟨_, rfl, hread⟩

end Studio

namespace Session

open Studio

/-- In any state of a session, a file that is UTF-8 is opened in a new tab. Then the tab has its
text with unified line ends, as much of it as the text area takes in, and as long as it has that
text, saving it writes that text. These are the octets that were in the file exactly if there is no
carriage return among them, and no null where the text area takes in the text up to a null. -/
theorem readOctets_save_opened (session : Session) {studio : Studio}
    (hstudio : studio ∈ session.states) (name : FileName) (intake : Intake) {octets : List Octet}
    {text : List Char} (hoctets : studio.disk.readOctets name.path = .ok octets)
    (htext : decodeUtf8 octets = .ok text) (hnew : studio.tabOf? name = none)
    (htheme : ValidTheme studio.theme) :
    let id := studio.notebook.nextId
    let shown := intake.taken (unifyNewlines text)
    (after (thenSettle (openFile name intake)) studio).Unedited id name shown ∧
    ∀ later : Studio, later.Unedited id name shown →
      ∃ saved, save later = .ok true saved ∧
        saved.disk.readOctets name.path = .ok (encodeUtf8 shown) ∧
        (saved.disk.readOctets name.path = .ok octets ↔
          (0x0d : Octet) ∉ octets ∧ (intake = .upToNull → (0 : Octet) ∉ octets)) := by
  have hread : studio.site.disk.readText name.path = .ok (String.ofList (unifyNewlines text)) := by
    have hoctets : studio.site.disk.readOctets name.path = .ok octets := hoctets
    rw [Disk.readText, hoctets]
    dsimp only [bind, Except.bind]
    rw [htext]
    rfl
  obtain ⟨work, hview, hfile, hwork⟩ :=
    view_openFile (session.paired_states studio hstudio) hnew hread htheme intake
  rw [String.toList_ofList] at hwork
  refine ⟨⟨⟨work, ?_, hfile, hwork⟩,
    holdsFile_opened name intake ⟨octets, hoctets⟩⟩, fun later hlater => ?_⟩
  · rw [after_thenSettle, Through.leaves_view tweaks_settle]
    exact hview
  · obtain ⟨saved, hsaved, hwritten⟩ := save_of_unedited hlater
    refine ⟨saved, hsaved, hwritten, ?_⟩
    rw [hwritten, Except.ok.injEq]
    exact encodeUtf8_taken_iff intake htext

/-- The studio is started where there are two files. One has an accent and no line feed at its end,
the other has a carriage return. -/
def amongTexts : Session where
  styles := ["clam"]
  disk := ⟨[(["a.doro"], .file (encodeUtf8 "é".toList)),
    (["b.doro"], .file (encodeUtf8 "say 1\r\nsay 2".toList))]⟩
  replies := []
  isDemo := false
  gestures := []

theorem readOctets_save_opened_accent :
    let name := FileName.typed "a.doro"
    amongTexts.studio.disk.readOctets name.path = .ok [0xc3, 0xa9] ∧
      decodeUtf8 [0xc3, 0xa9] = .ok ['é'] ∧ amongTexts.studio.tabOf? name = none ∧
      ValidTheme amongTexts.studio.theme ∧
      ∃ saved, save (after (thenSettle (openFile name .upToNull)) amongTexts.studio) =
          .ok true saved ∧
        saved.disk.readOctets name.path = .ok [0xc3, 0xa9] := by
  have hoctets : amongTexts.studio.disk.readOctets "a.doro" = .ok [0xc3, 0xa9] := by
    decide +kernel
  have htext : decodeUtf8 [0xc3, 0xa9] = .ok ['é'] := decodeUtf8_encodeUtf8 ['é']
  have hnew : amongTexts.studio.tabOf? (.typed "a.doro") = none := by
    decide +kernel
  have htheme : ValidTheme amongTexts.studio.theme :=
    ⟨.light, themeOf_of_toOption (by decide +kernel)⟩
  obtain ⟨hopened, hlater⟩ := readOctets_save_opened amongTexts amongTexts.studio_mem_states
    (.typed "a.doro") .upToNull hoctets htext hnew htheme
  obtain ⟨saved, hsaved, hwritten, hsame⟩ := hlater _ hopened
  exact ⟨hoctets, htext, hnew, htheme, saved, hsaved, hsame.mpr ⟨by decide, fun _ => by decide⟩⟩

/-- Here the carriage return is lost. -/
theorem readOctets_save_opened_return :
    let opened := amongTexts.studio.next ⟨.key "<Control-o>", [.text "b.doro"]⟩
    let saved := opened.next ⟨.key "<Control-s>", []⟩
    amongTexts.studio.disk.readOctets "b.doro" = .ok (encodeUtf8 "say 1\r\nsay 2".toList) ∧
      saved.disk.readOctets "b.doro" = .ok (encodeUtf8 "say 1\nsay 2".toList) ∧
      saved.disk.readOctets "b.doro" ≠ amongTexts.studio.disk.readOctets "b.doro" := by
  refine ⟨by decide +kernel, by decide +kernel, by decide +kernel⟩

end Session

end ScriptStudio
