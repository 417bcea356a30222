import ScriptStudio.Proofs.FindInView
import ScriptStudio.Proofs.LinePositions
import ScriptStudio.Proofs.MistakePlaces

/-!
# The marked line

Checking and running take the text of the current editor without the white space around it, and a
mistake in that code is marked in the editor by the line that is told. Lines are counted in the code
and marked in the text. So the marked line is that of the mistake exactly if the white space in
front of the code has no line feed in it.

* `Studio.tasks_settle`, `Session.tasks_studio`: between two gestures no task waits.
* `Studio.current?_analysed`: what checking and running do to the current editor where the code is
  refused.
* `Session.markedLine_iff`: the marked line and the line of the mistake.
-/

namespace ScriptStudio

namespace Studio

open Running

variable {studio : Studio} {id : Nat} {editor : Editor} {failure : Failure} {line : Nat}

/-! ## Nothing waits between gestures -/

theorem aside_tasks : Aside Studio.tasks where
  write _ _ := rfl
  print _ _ := rfl
  machine _ _ := rfl
  editor _ _ _ := rfl
  title := by
    intro studio
    obtain ⟨site, title, notebook, hend, -⟩ := updateTitle_eq studio
    rw [after_of_ok hend]
  status := by
    refine leaves_modify fun studio => ?_
    split <;> rfl

/-- A task that is done leaves no other behind. -/
theorem tasks_settle (studio : Studio) : (after settle studio).tasks = [] := by
  rw [settle, after_get_bind, after_modify_bind]
  exact aside_tasks.doTasks studio.tasks _

theorem tasks_next (studio : Studio) (gesture : Gesture) : (studio.next gesture).tasks = [] := by
  rw [next, after_thenSettle]
  exact tasks_settle _

end Studio

theorem Session.tasks_studio (session : Session) : session.studio.tasks = [] := by
  have hstart : session.first.tasks = [] := by
    rw [first, Studio.after_thenSettle]
    exact Studio.tasks_settle _
  have hall : ∀ studio ∈ session.states, studio.tasks = [] :=
    forall_mem_states hstart fun studio gesture _ => Studio.tasks_next studio gesture
  exact hall _ session.studio_mem_states

theorem Buffer.removeTag_removeTag (buffer : Buffer) (name : String) :
    (buffer.removeTag name).removeTag name = buffer.removeTag name := by
  simp only [removeTag, List.filter_filter, Bool.and_self]

namespace Studio

open Running

variable {studio : Studio} {id : Nat} {editor : Editor} {code : String} {failure : Failure}
  {line : Nat}

/-! ## The current editor -/

/-- A failure at a line is marked in the current editor. -/
theorem reportFailure_eq (hcurrent : studio.current? = some (id, editor))
    (hline : failure.line = some line) :
    ∃ marked, reportFailure failure studio = .ok () marked ∧ marked.tasks = studio.tasks ∧
      marked.current? = some (id, editor.markError line) := by
  have hwritten : ({ studio with
      transcript := studio.transcript.error failure.written } : Studio).current? =
        some (id, editor) := hcurrent
  rw [reportFailure, write, modify_bind_apply]
  simp only [hline]
  rw [markErrorLine, get_bind_apply]
  simp only [hwritten]
  exact ⟨_, rfl, rfl, current?_withEditor hwritten _⟩

theorem checkProgram_eq (hfull : studio.isDemo = false)
    (hcurrent : studio.current? = some (id, editor)) (hcode : Text.trim editor.text ≠ "")
    (hfailure : program (Text.trim editor.text) = .error failure)
    (hline : failure.line = some line) :
    ∃ marked, checkProgram studio = .ok () marked ∧ marked.tasks = studio.tasks ∧
      marked.current? = some (id, editor.clearError.markError line) := by
  have hne : (Text.trim editor.text == "") = false := beq_eq_false_iff_ne.mpr hcode
  have hcleared := current?_withEditor hcurrent Editor.clearError
  rw [checkProgram, get_bind_apply, hfull]
  simp only [Bool.false_eq_true, if_false]
  rw [get_bind_apply]
  simp only [hcurrent, hne, Bool.false_eq_true, if_false, hfailure]
  rw [changeEditor, modify_bind_apply, write, modify_bind_apply]
  exact reportFailure_eq hcleared hline

theorem execute_eq (hfull : studio.isDemo = false) (hcurrent : studio.current? = some (id, editor))
    (hfailure : program code = .error failure) (hline : failure.line = some line) :
    ∃ marked, execute false code studio = .ok () marked ∧
      marked.current? = some (id, editor.markError line) := by
  obtain ⟨marked, hreport, -, hmarked⟩ := reportFailure_eq hcurrent hline
  rw [execute, get_bind_apply, hfull]
  simp only [Bool.false_eq_true, if_false, hfailure]
  rw [reportRun, bind_of_ok hreport]
  exact ⟨_, rfl, hmarked⟩

theorem saveTo_eq (hcurrent : studio.current? = some (id, editor)) (file : FileName) :
    ∃ saved kept, saveTo id editor file studio = .ok () saved ∧ saved.tasks = studio.tasks ∧
      saved.isDemo = studio.isDemo ∧ saved.current? = some (id, kept) ∧
      kept.buffer = editor.buffer := by
  rw [saveTo]
  cases hwrite : studio.site.disk.writeText file.path editor.text with
  | error trouble =>
    have hfailed : writeEditor editor file.path studio = .error (.disk trouble) studio := by
      rw [writeEditor, get_bind_apply, hwrite]
      rfl
    have hact : ∀ next : Unit → Act Unit,
        (writeEditor editor file.path >>= next) studio = .error (.disk trouble) studio := by
      intro next
      simp only [bind, EStateM.bind, hfailed]
    rw [attempt_of_error (hact _) rfl]
    exact ⟨_, editor, rfl, rfl, rfl, hcurrent, rfl⟩
  | ok disk =>
    have hwritten : writeEditor editor file.path studio =
        .ok () { studio with site := { studio.site with disk } } := by
      rw [writeEditor, get_bind_apply, hwrite]
      rfl
    have hdisk : { studio with site := { studio.site with disk } }.current? = some (id, editor) :=
      hcurrent
    have hkept := current?_withEditor hdisk fun editor => { editor with isModified := false }
    obtain ⟨site, title, notebook, htitle, -, hnotebook⟩ := updateTitle_eq
      ({ studio with site := { studio.site with disk } }.withEditor id
        fun editor => { editor with isModified := false })
    have hselected : notebook.selected = studio.notebook.selected := by
      rcases hnotebook with rfl | ⟨_, _, rfl⟩ <;> rfl
    have hsaved := bind_of_ok hwritten fun _ => do
      changeEditor id fun editor => { editor with isModified := false }
      updateTitle
    rw [changeEditor, modify_bind_apply] at hsaved
    refine ⟨_, { editor with isModified := false }, attempt_of_ok (hsaved.trans htitle) _, rfl,
      rfl, ?_, rfl⟩
    rw [current?] at hkept ⊢
    rw [hselected]
    exact hkept

theorem saveBeforeRun_eq (hcurrent : studio.current? = some (id, editor)) :
    ∃ saved kept, saveBeforeRun id editor studio = .ok () saved ∧ saved.tasks = studio.tasks ∧
      saved.isDemo = studio.isDemo ∧ saved.current? = some (id, kept) ∧
      kept.buffer = editor.buffer := by
  have hsame : ∃ saved kept, (pure () : Act Unit) studio = .ok () saved ∧
      saved.tasks = studio.tasks ∧ saved.isDemo = studio.isDemo ∧
      saved.current? = some (id, kept) ∧ kept.buffer = editor.buffer :=
    ⟨studio, editor, rfl, rfl, rfl, hcurrent, rfl⟩
  cases hfile : editor.file with
  | none => simpa only [saveBeforeRun, hfile] using hsame
  | some file =>
    simp only [saveBeforeRun, hfile]
    split
    · exact saveTo_eq hcurrent file
    · exact hsame

/-- A run waits until the gesture is done. -/
theorem run_eq (hcurrent : studio.current? = some (id, editor))
    (hcode : Text.trim editor.text ≠ "") :
    ∃ waiting kept, run studio = .ok () waiting ∧
      waiting.tasks = studio.tasks ++ [.execute (Text.trim editor.text)] ∧
      waiting.isDemo = studio.isDemo ∧ waiting.current? = some (id, kept) ∧
      kept.buffer = editor.buffer := by
  have hne : (Text.trim editor.text == "") = false := beq_eq_false_iff_ne.mpr hcode
  have htold : ({ studio with
      transcript := studio.transcript.clear.info "Running program..." } : Studio).current? =
        some (id, editor) := hcurrent
  obtain ⟨saved, kept, hsaved, htasks, hdemo, hkept, hbuffer⟩ := saveBeforeRun_eq htold
  rw [run, get_bind_apply]
  simp only [hcurrent, hne, Bool.false_eq_true, if_false]
  rw [write, modify_bind_apply, write, modify_bind_apply, bind_of_ok hsaved]
  refine ⟨_, kept, rfl, ?_, hdemo, hkept, hbuffer⟩
  rw [← htasks]

/-- The commands that read the text of the current editor as a program. -/
def Analyses (command : Command) : Prop := command = .checkProgram ∨ command = .run

/-- Checking and running mark the line that is told in the current editor. -/
theorem current?_analysed {command : Command} (hcommand : Analyses command)
    (hfull : studio.isDemo = false) (hidle : studio.tasks = [])
    (hcurrent : studio.current? = some (id, editor)) (hcode : Text.trim editor.text ≠ "")
    (hfailure : program (Text.trim editor.text) = .error failure)
    (hline : failure.line = some line) :
    ∃ marked, (after (thenSettle (perform command)) studio).current? = some (id, marked) ∧
      marked.buffer = (editor.markError line).buffer := by
  rw [after_thenSettle, settle, after_get_bind, after_modify_bind]
  rcases hcommand with rfl | rfl
  · obtain ⟨marked, hend, htasks, hmarked⟩ :=
      checkProgram_eq hfull hcurrent hcode hfailure hline
    rw [perform, after_of_ok hend, htasks, hidle]
    refine ⟨_, hmarked, ?_⟩
    rw [Editor.markError, Editor.clearError, Buffer.removeTag_removeTag]
    rfl
  · obtain ⟨waiting, kept, hend, htasks, hdemo, hkept, hbuffer⟩ := run_eq hcurrent hcode
    rw [perform, after_of_ok hend, htasks, hidle, List.nil_append]
    have hidle' : ({ waiting with tasks := [] } : Studio).current? = some (id, kept) := hkept
    have hfull' : ({ waiting with tasks := [] } : Studio).isDemo = false := hdemo.trans hfull
    obtain ⟨marked, hend', hmarked⟩ := execute_eq hfull' hidle' hfailure hline
    have hdone : doTasks [.execute (Text.trim editor.text)] { waiting with tasks := [] } =
        .ok () marked := bind_of_ok hend' _
    rw [after_of_ok hdone]
    refine ⟨_, hmarked, ?_⟩
    rw [Editor.markError, Editor.markError, hbuffer]

end Studio

/-! ## The line that is marked -/

theorem Mistake.IsIn.program_eq {mistake : Mistake} {code : String} (h : mistake.IsIn code) :
    ∃ failure, Running.program code = .error failure ∧ failure.line = some mistake.place.line := by
  cases mistake with
  | char error =>
    have htokens : tokenize code = .error error := h
    rw [Running.program, htokens]
    exact ⟨_, rfl, rfl⟩
  | token error =>
    obtain ⟨tokens, htokens, hrefused⟩ := h
    have hread : Running.program code =
        (Program.ofTokens tokens).mapError Running.Failure.ofParse := by
      rw [Running.program, htokens]
      rfl
    rw [hread, hrefused]
    exact ⟨_, rfl, rfl⟩

namespace Editor

/-- The white space in front of the code. -/
def margin (editor : Editor) : List Char := editor.buffer.text.takeWhile Text.isBlank

/-- The line that an offset of the text is in. -/
def lineOf (editor : Editor) (offset : Nat) : Nat :=
  1 + (editor.buffer.text.take offset).count '\n'

/-- The code stands in the text behind the margin. -/
theorem exists_text_eq (editor : Editor) :
    ∃ behind, editor.buffer.text = editor.margin ++ ((Text.trim editor.text).toList ++ behind) := by
  obtain ⟨behind, htext, -⟩ := Text.exists_eq_append_trimWhile Text.isBlank editor.buffer.text
  refine ⟨behind, ?_⟩
  rwa [Text.trim, text, String.toList_ofList, String.toList_ofList]

theorem line_place (editor : Editor) {offset : Nat} (h : offset ≤ editor.buffer.text.length) :
    (editor.buffer.place offset).line = editor.lineOf offset := by
  rw [Buffer.place, Buffer.placeAfter, Buffer.content, List.take_append_of_le_length h, lineOf]

/-- The mark is on the characters of the line and on no others. -/
theorem bears_markError (editor : Editor) (line position : Nat) :
    (editor.markError line).buffer.Bears errorTag position ↔
      editor.buffer.position line 0 ≤ position ∧ position < editor.buffer.lineEnd line := by
  have hcovers : (editor.markError line).buffer.Covers ⟨errorTag,
      editor.buffer.place (editor.buffer.position line 0),
      editor.buffer.place (editor.buffer.lineEnd line)⟩ position ↔
        editor.buffer.position line 0 ≤ position ∧ position < editor.buffer.lineEnd line := by
    have hfirst := editor.buffer.position_place (editor.buffer.position_le line 0)
    have hlast := editor.buffer.position_place (editor.buffer.position_le line editor.buffer.size)
    exact and_congr (iff_of_eq (congrArg (· ≤ position) hfirst))
      (iff_of_eq (congrArg (position < ·) hlast))
  constructor
  · rintro ⟨tag, hmem, hname, hcovered⟩
    rcases List.mem_append.mp hmem with hkept | hnew
    · have hother := (List.mem_filter.mp hkept).2
      rw [hname, bne_self_eq_false] at hother
      cases hother
    · obtain rfl := List.mem_singleton.mp hnew
      exact hcovers.mp hcovered
  · intro hbetween
    exact ⟨_, List.mem_append_right _ (List.mem_singleton_self _), rfl, hcovers.mpr hbetween⟩

end Editor

namespace Session

open Studio

/-- A mistake in the code is marked by its line in the code. -/
theorem exists_marked (session : Session) {command : Command} (hcommand : Analyses command)
    (hfull : session.studio.isDemo = false) {id : Nat} {editor : Editor}
    (hcurrent : session.studio.current? = some (id, editor)) {mistake : Mistake}
    (hmistake : mistake.IsIn (Text.trim editor.text)) (hinside : mistake.isInside = true)
    {offset : Nat} (hoffset : mistake.StartsAt (Text.trim editor.text) offset) :
    ∃ marked line,
      (after (thenSettle (perform command)) session.studio).current? = some (id, marked) ∧
      marked.buffer.text = editor.buffer.text ∧
      (∀ position, marked.buffer.Bears Editor.errorTag position ↔
        editor.buffer.position line 0 ≤ position ∧ position < editor.buffer.lineEnd line) ∧
      line + editor.margin.count '\n' = editor.lineOf (editor.margin.length + offset) ∧
      editor.margin.length + offset < editor.buffer.text.length := by
  obtain ⟨failure, hfailure, hline⟩ := hmistake.program_eq
  obtain ⟨hlt, hplace⟩ := hoffset.place_eq hmistake hinside
  have hcode : Text.trim editor.text ≠ "" := by
    intro hempty
    rw [hempty] at hlt
    exact Nat.not_lt_zero _ hlt
  obtain ⟨marked, hmarked, hbuffer⟩ :=
    current?_analysed hcommand hfull session.tasks_studio hcurrent hcode hfailure hline
  obtain ⟨behind, htext⟩ := editor.exists_text_eq
  have hcounted : mistake.place.line =
      1 + ((Text.trim editor.text).toList.take offset).count '\n' := by
    rw [hplace, Place.endOf]
  refine ⟨marked, mistake.place.line, hmarked, ?_, ?_, ?_, ?_⟩
  · rw [hbuffer]
    rfl
  · rw [hbuffer]
    exact editor.bears_markError mistake.place.line
  · rw [Editor.lineOf, htext, List.take_length_add_append, List.take_append_of_le_length hlt.le,
      List.count_append, hcounted]
    omega
  · rw [htext, List.length_append, List.length_append]
    omega

/-- Checking or running code with a mistake marks the characters of one line, and the text stays.
The mistake begins at exactly one point, and the marked line is the line of this point in the text
exactly if there is no line feed in front of the code; otherwise it is as many lines above. So the
character that the mistake begins with bears the mark exactly if no line feed is in front of the
code. -/
theorem markedLine_iff (session : Session) {command : Command} (hcommand : Analyses command)
    (hfull : session.studio.isDemo = false) {id : Nat} {editor : Editor}
    (hcurrent : session.studio.current? = some (id, editor)) {mistake : Mistake}
    (hmistake : mistake.IsIn (Text.trim editor.text)) (hinside : mistake.isInside = true) :
    ∃ offset marked line,
      (∀ other, mistake.StartsAt (Text.trim editor.text) other ↔ other = offset) ∧
      (after (thenSettle (perform command)) session.studio).current? = some (id, marked) ∧
      marked.buffer.text = editor.buffer.text ∧
      (∀ position, marked.buffer.Bears Editor.errorTag position ↔
        editor.buffer.position line 0 ≤ position ∧ position < editor.buffer.lineEnd line) ∧
      let point := editor.margin.length + offset
      line + editor.margin.count '\n' = editor.lineOf point ∧
      (line = editor.lineOf point ↔ '\n' ∉ editor.margin) ∧
      (editor.buffer.charAt? point ≠ some '\n' →
        (marked.buffer.Bears Editor.errorTag point ↔ '\n' ∉ editor.margin)) := by
  obtain ⟨offset, -, -, hunique⟩ := Mistake.exists_startsAt_iff hmistake hinside
  obtain ⟨marked, line, hmarked, htext, hbears, hline, hpoint⟩ :=
    exists_marked session hcommand hfull hcurrent hmistake hinside ((hunique offset).mpr rfl)
  have hright : line = editor.lineOf (editor.margin.length + offset) ↔ '\n' ∉ editor.margin := by
    rw [← hline, ← List.count_eq_zero]
    omega
  refine ⟨offset, marked, line, hunique, hmarked, htext, hbears, hline, hright, fun hchar => ?_⟩
  rw [hbears, Buffer.between_ends_iff (Nat.lt_succ_of_lt hpoint) hchar,
    editor.line_place hpoint.le, hright]

/-- A text is typed into a new tab. -/
def typing (text : String) : Session where
  styles := ["clam"]
  disk := ⟨[]⟩
  replies := []
  isDemo := false
  gestures := [⟨.key "<Control-n>", []⟩, ⟨.type text, []⟩]

theorem markedLine_secondLine :
    ∃ id editor, (typing "  say 1\n @").studio.current? = some (id, editor) ∧
      editor.text = "  say 1\n @" ∧ Analyses .run ∧
      Mistake.IsIn (Text.trim editor.text) (.char ⟨'@', ⟨2, 2⟩⟩) ∧
      ∃ offset marked line,
        (∀ other, Mistake.StartsAt (Text.trim editor.text) other (.char ⟨'@', ⟨2, 2⟩⟩) ↔
          other = offset) ∧
        (after (thenSettle (perform .run)) (typing "  say 1\n @").studio).current? =
          some (id, marked) ∧
        marked.buffer.text = editor.buffer.text ∧
        (∀ position, marked.buffer.Bears Editor.errorTag position ↔
          editor.buffer.position line 0 ≤ position ∧ position < editor.buffer.lineEnd line) ∧
        let point := editor.margin.length + offset
        line + editor.margin.count '\n' = editor.lineOf point ∧
        (line = editor.lineOf point ↔ '\n' ∉ editor.margin) ∧
        (editor.buffer.charAt? point ≠ some '\n' →
          (marked.buffer.Bears Editor.errorTag point ↔ '\n' ∉ editor.margin)) := by
  have htyped : (typing "  say 1\n @").studio.current?.map (fun current => current.2.text) =
      some "  say 1\n @" := by
    decide +kernel
  obtain ⟨⟨id, editor⟩, hcurrent, htext⟩ := Option.map_eq_some_iff.mp htyped
  have hmistake : Mistake.IsIn (Text.trim editor.text) (.char ⟨'@', ⟨2, 2⟩⟩) := by
    rw [show editor.text = _ from htext]
    cbv
  have hfull : (typing "  say 1\n @").studio.isDemo = false := by
    decide +kernel
  exact ⟨id, editor, hcurrent, htext, .inr rfl, hmistake,
    markedLine_iff _ (.inr rfl) hfull hcurrent hmistake rfl⟩

/-- The only mistake is in the second line, and the blanks of the first line are marked. -/
theorem markedLine_blankFirstLine :
    ∃ id editor offset marked,
      (typing "  \n@").studio.current? = some (id, editor) ∧
      editor.buffer.text = [' ', ' ', '\n', '@'] ∧
      Mistake.IsIn (Text.trim editor.text) (.char ⟨'@', ⟨1, 1⟩⟩) ∧
      Mistake.StartsAt (Text.trim editor.text) offset (.char ⟨'@', ⟨1, 1⟩⟩) ∧
      (after (thenSettle (perform .checkProgram)) (typing "  \n@").studio).current? =
        some (id, marked) ∧
      (∀ position, marked.buffer.Bears Editor.errorTag position ↔ position < 2) ∧
      editor.margin.length + offset = 3 ∧ editor.lineOf 3 = 2 := by
  have htyped : (typing "  \n@").studio.current?.map (fun current => current.2.buffer.text) =
      some [' ', ' ', '\n', '@'] := by
    decide +kernel
  obtain ⟨⟨id, editor⟩, hcurrent, htext⟩ := Option.map_eq_some_iff.mp htyped
  have hbuffer : editor.buffer.text = [' ', ' ', '\n', '@'] := htext
  have hcode : Text.trim editor.text = "@" := by
    rw [Editor.text, hbuffer]
    cbv
  have hmistake : Mistake.IsIn (Text.trim editor.text) (.char ⟨'@', ⟨1, 1⟩⟩) := by
    rw [hcode]
    cbv
  have hfull : (typing "  \n@").studio.isDemo = false := by
    decide +kernel
  obtain ⟨offset, hstarts⟩ := Mistake.exists_startsAt hmistake rfl
  have hoffset : offset = 0 := by
    have hlt := (hstarts.place_eq hmistake rfl).1
    rw [hcode] at hlt
    exact Nat.lt_one_iff.mp hlt
  obtain ⟨marked, line, hmarked, -, hbears, hline, -⟩ :=
    exists_marked _ (.inl rfl) hfull hcurrent hmistake rfl hstarts
  have hmargin : editor.margin = [' ', ' ', '\n'] := by
    rw [Editor.margin, hbuffer]
    decide
  have hpoint : editor.margin.length + offset = 3 := by
    rw [hmargin, hoffset]
    rfl
  have hsecond : editor.lineOf 3 = 2 := by
    rw [Editor.lineOf, hbuffer]
    decide
  obtain rfl : line = 1 := by
    rw [hpoint, hsecond, hmargin] at hline
    exact Nat.succ.inj hline
  have hends : editor.buffer.position 1 0 = 0 ∧ editor.buffer.lineEnd 1 = 2 := by
    rw [Buffer.lineEnd, Buffer.position, Buffer.position, Buffer.size, Buffer.content, hbuffer]
    decide
  refine ⟨id, editor, offset, marked, hcurrent, hbuffer, hmistake, hstarts, hmarked,
    fun position => ?_, hpoint, hsecond⟩
  rw [hbears, hends.1, hends.2, and_iff_right (Nat.zero_le _)]

end Session

end ScriptStudio
