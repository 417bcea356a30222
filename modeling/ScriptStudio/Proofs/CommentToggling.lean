import ScriptStudio.Editor.Comment
import ScriptStudio.Proofs.LinePositions
import ScriptStudio.Proofs.ReplaceOccurrences

/-!
# Toggling comments twice

Toggling takes out an extent of the text and puts its lines back, each with a comment sign in front
or without one. Where some line was neither blank nor a comment, toggling what was put back gives
the lines of the extent again. If the extent had in it the line feed that closes the text, there is
one line feed too many at the end then, because that one is never taken out; and where the line feed
in front of whole lines goes with them, it does not come back.

* `Text.splitLines_eq_splitOn`: lines, in the terms of the library.
* `Comment.toggleLines_toggleLines`: toggling lines twice.
* `Buffer.text_delete_insert`: putting other characters in the place of deleted ones.
* `Comment.text_toggle`: the text after toggling once, for every extent.
* `Comment.HasCode.text_toggle_toggledSelected`: the text after toggling twice.
-/

namespace ScriptStudio

/-! ## Lines -/

namespace Text

theorem splitLinesFrom_eq (current text : List Char) :
    splitLinesFrom current text = (text.splitOn '\n').modifyHead (current.reverse ++ ·) := by
  induction text generalizing current with
  | nil => simp [splitLinesFrom]
  | cons c rest ih =>
    rw [splitLinesFrom, List.splitOn_eq_splitOnP, List.splitOnP_cons_eq_if_modifyHead,
      ← List.splitOn_eq_splitOnP, ih, ih]
    by_cases hc : c = '\n'
    · rw [if_pos hc, if_pos (beq_iff_eq.mpr hc), List.modifyHead_cons, List.append_nil]
      exact congrArg _ (congrFun List.modifyHead_id _)
    · simp [hc, Function.comp_def]

theorem splitLines_eq_splitOn (text : List Char) : splitLines text = text.splitOn '\n' := by
  rw [splitLines, splitLinesFrom_eq]
  exact congrFun List.modifyHead_id _

theorem joinLines_splitLines (text : List Char) : joinLines (splitLines text) = text := by
  rw [splitLines_eq_splitOn]
  exact List.intercalate_splitOn '\n'

theorem splitLines_joinLines {lines : List (List Char)} (hne : lines ≠ [])
    (hlines : ∀ line ∈ lines, '\n' ∉ line) : splitLines (joinLines lines) = lines := by
  rw [splitLines_eq_splitOn]
  exact List.splitOn_intercalate '\n' hlines hne

theorem splitLines_ne_nil (text : List Char) : splitLines text ≠ [] := by
  rw [splitLines_eq_splitOn]
  exact List.splitOn_ne_nil '\n' text

theorem newline_not_mem_splitLinesFrom {current : List Char} (hcurrent : '\n' ∉ current)
    (text : List Char) : ∀ line ∈ splitLinesFrom current text, '\n' ∉ line := by
  induction text generalizing current with
  | nil => simpa [splitLinesFrom] using hcurrent
  | cons c rest ih =>
    rw [splitLinesFrom]
    split
    · intro line hline
      rcases List.mem_cons.mp hline with rfl | hline
      · simpa using hcurrent
      · exact ih List.not_mem_nil line hline
    · rename_i hc
      exact ih (List.not_mem_cons_of_ne_of_not_mem (Ne.symm hc) hcurrent)

theorem newline_not_mem_splitLines (text : List Char) : ∀ line ∈ splitLines text, '\n' ∉ line :=
  newline_not_mem_splitLinesFrom List.not_mem_nil text

/-- A character moves only through its like. -/
theorem append_cons_eq_iff (c : Char) (text rest : List Char) :
    text ++ c :: rest = c :: (text ++ rest) ↔ ∀ other ∈ text, other = c := by
  induction text with
  | nil => simp
  | cons first text ih =>
    by_cases hfirst : first = c
    · subst hfirst
      simp [ih]
    · simp [hfirst]

theorem mem_joinLines {c : Char} {line : List Char} {lines : List (List Char)}
    (hline : line ∈ lines) (hc : c ∈ line) : c ∈ joinLines lines := by
  rw [joinLines]
  induction lines with
  | nil => cases hline
  | cons first rest ih =>
    cases rest with
    | nil =>
      obtain rfl := List.mem_singleton.mp hline
      simpa [List.intercalate] using hc
    | cons second more =>
      rw [List.intercalate_cons_cons]
      rcases List.mem_cons.mp hline with rfl | hrest
      · exact List.mem_append_left _ (List.mem_append_left _ hc)
      · exact List.mem_append_right _ (ih hrest)

end Text

/-! ## Deleted characters -/

namespace Buffer

theorem takesBreak_eq_false {buffer : Buffer} {first last : Nat} (rule : BreakRule)
    (h : last ≤ buffer.text.length) : buffer.takesBreak first last rule = false := by
  have hinside : ¬buffer.size ≤ last := Nat.not_le_of_lt (Nat.lt_succ_of_le h)
  simp [takesBreak, hinside]

theorem exists_of_takesBreak {buffer : Buffer} {first last : Nat} {rule : BreakRule}
    (h : buffer.takesBreak first last rule = true) :
    ∃ front, first = front.length + 1 ∧ buffer.text = front ++ '\n' :: buffer.text.drop first ∧
      first ≤ buffer.text.length ∧ buffer.text.length < last := by
  simp only [takesBreak, Bool.and_eq_true, decide_eq_true_eq, beq_iff_eq] at h
  obtain ⟨⟨⟨-, hfirst⟩, hlast⟩, hbreak⟩ := h
  have hinside : first ≤ buffer.text.length := Nat.le_of_lt_succ hfirst
  obtain ⟨front, hfront⟩ := List.getLast?_eq_some_iff.mp hbreak
  refine ⟨front, ?_, ?_, hinside, hlast⟩
  · have hlength := congrArg List.length hfront
    rwa [List.length_take_of_le hinside, List.length_append] at hlength
  · rw [← List.singleton_append, ← List.append_assoc, ← hfront, List.take_append_drop]

theorem gapStart_le (buffer : Buffer) (first last : Nat) (rule : BreakRule) :
    buffer.gapStart first last rule ≤ first := by
  rw [gapStart]
  split
  · exact Nat.sub_le _ _
  · exact le_rfl

theorem slice_past_end {buffer : Buffer} {first last : Nat} (hfirst : first ≤ buffer.text.length)
    (hlast : buffer.text.length < last) :
    buffer.slice first last = buffer.text.drop first ++ ['\n'] := by
  have hwhole : buffer.content.take last = buffer.text ++ ['\n'] :=
    List.take_of_length_le (by rw [content, List.length_append]; exact hlast)
  rw [slice, hwhole, List.drop_append_of_le_length hfirst]

theorem text_cut (buffer : Buffer) {first last : Nat} (h : first < min last buffer.text.length) :
    (buffer.cut first last).text = buffer.text.take first ++ buffer.text.drop last := by
  rw [cut, if_neg (Nat.not_le_of_lt h)]
  exact congrArg _ List.drop_eq_drop_min.symm

/-- Putting characters in where others were deleted, wherever the ends are. -/
theorem text_delete_insert (buffer : Buffer) (first last : Nat) (rule : BreakRule)
    (chars : List Char) :
    ((buffer.delete first last rule).insert first chars).text =
      buffer.text.take (buffer.gapStart first last rule) ++ chars ++
        buffer.text.drop (max first last) := by
  rw [delete]
  by_cases htakes : buffer.takesBreak first last rule = true
  · -- the gap begins one further in front, and the text ends there
    obtain ⟨front, hpoint, -, hfirst, hlast⟩ := exists_of_takesBreak htakes
    have hgap : buffer.gapStart first last rule = first - 1 := if_pos htakes
    have hcut : (buffer.cut (first - 1) last).text = buffer.text.take (first - 1) := by
      rw [text_cut _ (by omega), List.drop_eq_nil_of_le (by omega), List.append_nil]
    have hmin : min first (buffer.text.take (first - 1)).length =
        (buffer.text.take (first - 1)).length := by
      rw [List.length_take]
      omega
    rw [hgap, insert, hcut, hmin, List.take_length, List.drop_length,
      List.drop_eq_nil_of_le (by omega)]
  · have hgap : buffer.gapStart first last rule = first := if_neg htakes
    rw [hgap]
    by_cases hempty : min last buffer.text.length ≤ first
    · -- nothing is taken out, and what follows begins where the deleted characters do
      have hdrop : buffer.text.drop (max first last) = buffer.text.drop first := by
        rcases Nat.lt_or_ge first last with hlt | hle
        · rw [List.drop_eq_nil_of_le (by omega), List.drop_eq_nil_of_le (by omega)]
        · rw [Nat.max_eq_left hle]
      rw [cut, if_pos hempty, insert, hdrop]
      simp only [List.take_eq_take_min.symm, List.drop_eq_drop_min.symm]
    · have hfront : (buffer.text.take first).length = first := by
        rw [List.length_take]
        omega
      have hinserted := text_insert (buffer.text_cut (Nat.lt_of_not_le hempty)) chars
      rw [hfront] at hinserted
      rw [hinserted, Nat.max_eq_right (by omega)]

end Buffer

/-! ## Toggled lines -/

namespace Comment

variable {line : List Char} {lines : List (List Char)}

/-- A line of code: neither blank nor a comment. -/
def IsCode (line : List Char) : Prop := isBlankLine line = false ∧ isComment line = false

/-- The line as a comment, if it is not blank. -/
def commented (line : List Char) : List Char :=
  if isBlankLine line then line else '#' :: ' ' :: line

/-- The line without a comment sign, if it is a comment. -/
def uncommented (line : List Char) : List Char := if isComment line then uncomment line else line

theorem toggleLines_of_code (hcode : ∃ line ∈ lines, IsCode line) :
    toggleLines lines = lines.map commented := by
  obtain ⟨line, hmem, hblank, hcomment⟩ := hcode
  rw [toggleLines, if_neg]
  · rfl
  · rw [List.all_eq_true]
    intro hall
    simpa [hblank, hcomment] using hall line hmem

theorem toggleLines_of_comments
    (hcomments : ∀ line ∈ lines, isComment line = true ∨ isBlankLine line = true) :
    toggleLines lines = lines.map uncommented := by
  rw [toggleLines, if_pos]
  · rfl
  · simpa using hcomments

theorem isComment_of_isBlankLine (hblank : isBlankLine line = true) : isComment line = false := by
  have hnothing : line.dropWhile Text.isBlank = [] := by
    rw [List.dropWhile_eq_nil_iff]
    exact List.all_eq_true.mp hblank
  rw [isComment, hnothing]
  rfl

theorem commented_comment_or_blank (line : List Char) :
    isComment (commented line) = true ∨ isBlankLine (commented line) = true := by
  rw [commented]
  split
  · rename_i hblank
    exact .inr hblank
  · exact .inl rfl

theorem uncommented_commented (line : List Char) : uncommented (commented line) = line := by
  rw [commented]
  split
  · rename_i hblank
    rw [uncommented, isComment_of_isBlankLine hblank, if_neg Bool.false_ne_true]
  · rfl

theorem newline_not_mem_commented (hline : '\n' ∉ line) : '\n' ∉ commented line := by
  rw [commented]
  split
  · exact hline
  · simpa using hline

/-- Lines with code among them come back. -/
theorem toggleLines_toggleLines (hcode : ∃ line ∈ lines, IsCode line) :
    toggleLines (toggleLines lines) = lines := by
  rw [toggleLines_of_code hcode, toggleLines_of_comments, List.map_map]
  · have hid : uncommented ∘ commented = id := funext uncommented_commented
    rw [hid, List.map_id]
  · intro line hline
    obtain ⟨original, -, rfl⟩ := List.mem_map.mp hline
    exact commented_comment_or_blank original

/-! ## The extent -/

section

variable {buffer : Buffer}

/-- The extent has a line of code. -/
def HasCode (buffer : Buffer) : Prop :=
  ∃ line ∈ Text.splitLines (buffer.slice (extent buffer).1 (extent buffer).2), IsCode line

/-- What toggling puts in the place of the extent. -/
def toggled (buffer : Buffer) : List Char :=
  Text.joinLines
    (toggleLines (Text.splitLines (buffer.slice (extent buffer).1 (extent buffer).2)))

/-- Where the characters that toggling puts in begin. -/
def start (buffer : Buffer) (rule : BreakRule) : Nat :=
  buffer.gapStart (extent buffer).1 (extent buffer).2 rule

/-- The text with other characters in the place of the extent. -/
def withExtent (buffer : Buffer) (rule : BreakRule) (chars : List Char) : List Char :=
  buffer.text.take (start buffer rule) ++ chars ++
    buffer.text.drop (max (extent buffer).1 (extent buffer).2)

/-- The buffer after toggling, with what was put in selected. -/
def toggledSelected (buffer : Buffer) (rule : BreakRule) : Buffer :=
  (toggle buffer rule).select (start buffer rule) (start buffer rule + (toggled buffer).length)

/-- Toggling changes nothing but the extent and the line feed in front of it, wherever its ends
are. -/
theorem text_toggle (buffer : Buffer) (rule : BreakRule) :
    (toggle buffer rule).text = withExtent buffer rule (toggled buffer) :=
  buffer.text_delete_insert _ _ rule _

theorem HasCode.slice_ne_nil (hcode : HasCode buffer) :
    buffer.slice (extent buffer).1 (extent buffer).2 ≠ [] := by
  intro hnil
  obtain ⟨line, hline, hblank, -⟩ := hcode
  rw [hnil] at hline
  obtain rfl := List.mem_singleton.mp hline
  exact absurd hblank (by decide)

theorem HasCode.extent_lt (hcode : HasCode buffer) :
    (extent buffer).1 < (extent buffer).2 ∧ (extent buffer).1 ≤ buffer.text.length := by
  have hlength := List.length_pos_iff.mpr hcode.slice_ne_nil
  rw [Buffer.slice, List.length_drop, List.length_take, Buffer.content, List.length_append,
    List.length_singleton] at hlength
  omega

/-- What was put in is the extent of the next toggling. -/
theorem HasCode.slice_toggledSelected (hcode : HasCode buffer) (rule : BreakRule) :
    (toggledSelected buffer rule).slice (start buffer rule)
      (start buffer rule + (toggled buffer).length) = toggled buffer := by
  have hstart : (buffer.text.take (start buffer rule)).length = start buffer rule :=
    List.length_take_of_le ((buffer.gapStart_le _ _ rule).trans hcode.extent_lt.2)
  have htext : (toggledSelected buffer rule).text = _ := text_toggle buffer rule
  have hslice := Buffer.slice_of_text htext
  rwa [hstart] at hslice

theorem HasCode.toggled_toggledSelected (hcode : HasCode buffer) (rule : BreakRule) :
    toggled (toggledSelected buffer rule) =
      buffer.slice (extent buffer).1 (extent buffer).2 := by
  have hlines : Text.splitLines (toggled buffer) =
      toggleLines (Text.splitLines (buffer.slice (extent buffer).1 (extent buffer).2)) := by
    rw [toggled, toggleLines_of_code hcode, Text.splitLines_joinLines]
    · simpa using Text.splitLines_ne_nil _
    · intro line hline
      obtain ⟨original, horiginal, rfl⟩ := List.mem_map.mp hline
      exact newline_not_mem_commented (Text.newline_not_mem_splitLines _ original horiginal)
  have hslice : (toggledSelected buffer rule).slice (extent (toggledSelected buffer rule)).1
      (extent (toggledSelected buffer rule)).2 = toggled buffer :=
    hcode.slice_toggledSelected rule
  rw [toggled, hslice, hlines, toggleLines_toggleLines hcode, Text.joinLines_splitLines]

/-- Toggling twice puts the characters of the extent back where they were put in. -/
theorem HasCode.text_toggle_toggledSelected (hcode : HasCode buffer) (rule : BreakRule) :
    (toggle (toggledSelected buffer rule) rule).text =
      withExtent buffer rule (buffer.slice (extent buffer).1 (extent buffer).2) := by
  have hstart : (buffer.text.take (start buffer rule)).length = start buffer rule :=
    List.length_take_of_le ((buffer.gapStart_le _ _ rule).trans hcode.extent_lt.2)
  have htext : (toggledSelected buffer rule).text = withExtent buffer rule (toggled buffer) :=
    text_toggle buffer rule
  have hextent : extent (toggledSelected buffer rule) =
      (start buffer rule, start buffer rule + (toggled buffer).length) := rfl
  have hinside : start buffer rule + (toggled buffer).length ≤
      (toggledSelected buffer rule).text.length := by
    rw [htext, withExtent, List.length_append, List.length_append, hstart]
    exact Nat.le_add_right _ _
  have hagain : start (toggledSelected buffer rule) rule = start buffer rule := by
    rw [start, Buffer.gapStart, Buffer.takesBreak_eq_false rule (by rw [hextent]; exact hinside),
      hextent]
    exact if_neg Bool.false_ne_true
  rw [text_toggle, withExtent, hagain, hcode.toggled_toggledSelected, hextent, htext,
    Nat.max_eq_right (Nat.le_add_right _ _), withExtent]
  congr 1
  · rw [List.append_assoc, List.take_left' hstart]
  · exact List.drop_left' (by rw [List.length_append, hstart])

theorem HasCode.extent_le_iff (hcode : HasCode buffer) :
    (extent buffer).2 ≤ buffer.text.length ↔
      ∀ first last, buffer.selection = some (first, last) → last ≤ buffer.text.length := by
  cases hselection : buffer.selection with
  | some ends =>
    obtain ⟨first, last⟩ := ends
    have hextent : extent buffer = (first, last) := by
      rw [extent, hselection]
    simp [hextent]
  | none =>
    have hextent : extent buffer = (buffer.position (buffer.place buffer.cursor).line 0,
        buffer.lineEnd (buffer.place buffer.cursor).line) := by
      rw [extent, hselection]
    have hslice := hcode.slice_ne_nil
    rw [hextent] at hslice ⊢
    obtain ⟨lines, current, hline⟩ := buffer.exists_lineAt buffer.cursor
    -- behind the closing line feed the line is empty, and there is no code
    have hcursor : buffer.cursor < buffer.size := by
      by_contra hend
      obtain ⟨rfl, -⟩ := hline.current_eq_nil (Nat.le_of_not_lt hend)
      refine hslice ?_
      rw [hline.position_start, Buffer.slice, List.drop_eq_nil_iff]
      exact List.length_take_le' _ _
    simp [hline.lineEnd_le hcursor]

/-- The text without the line feed in front of the extent, if that one goes. -/
def withoutBreak (buffer : Buffer) (rule : BreakRule) : List Char :=
  if buffer.takesBreak (extent buffer).1 (extent buffer).2 rule then
    buffer.text.eraseIdx ((extent buffer).1 - 1)
  else buffer.text

theorem HasCode.withExtent_slice (hcode : HasCode buffer) (rule : BreakRule) :
    withExtent buffer rule (buffer.slice (extent buffer).1 (extent buffer).2) =
      withoutBreak buffer rule ++
        (if (extent buffer).2 ≤ buffer.text.length then [] else ['\n']) := by
  obtain ⟨hlt, hfirst⟩ := hcode.extent_lt
  rw [withExtent, withoutBreak, start, Buffer.gapStart, Nat.max_eq_right hlt.le]
  generalize extent buffer = ends at hlt hfirst ⊢
  obtain ⟨first, last⟩ := ends
  dsimp only at hlt hfirst ⊢
  by_cases hlast : last ≤ buffer.text.length
  · have hfront : buffer.text.take first = (buffer.text.take last).take first := by
      rw [List.take_take, Nat.min_eq_left hlt.le]
    rw [Buffer.takesBreak_eq_false rule hlast, if_neg Bool.false_ne_true,
      if_neg Bool.false_ne_true, if_pos hlast, Buffer.slice, Buffer.content,
      List.take_append_of_le_length hlast, hfront, List.take_append_drop, List.take_append_drop,
      List.append_nil]
  · have hback : buffer.text.drop last = [] := List.drop_eq_nil_of_le (Nat.le_of_not_le hlast)
    rw [if_neg hlast, hback, List.append_nil, Buffer.slice_past_end hfirst (Nat.lt_of_not_le hlast),
      ← List.append_assoc]
    congr 1
    by_cases htakes : buffer.takesBreak first last rule = true
    · obtain ⟨front, rfl, -⟩ := Buffer.exists_of_takesBreak htakes
      rw [if_pos htakes, if_pos htakes, List.eraseIdx_eq_take_drop_succ, Nat.add_sub_cancel]
    · rw [if_neg htakes, if_neg htakes, List.take_append_drop]

/-- An extent with code has a character that is no line feed. -/
theorem HasCode.exists_mem_slice (hcode : HasCode buffer) :
    ∃ c ∈ buffer.slice (extent buffer).1 (extent buffer).2, c ≠ '\n' := by
  obtain ⟨line, hline, hblank, -⟩ := hcode
  obtain ⟨c, hc, hother⟩ := List.all_eq_false.mp hblank
  have hmem := Text.mem_joinLines hline hc
  rw [Text.joinLines_splitLines] at hmem
  refine ⟨c, hmem, ?_⟩
  rintro rfl
  exact hother (by decide)

theorem HasCode.withoutBreak_ne (hcode : HasCode buffer) (rule : BreakRule) :
    withoutBreak buffer rule ++ ['\n'] ≠ buffer.text := by
  intro hsame
  rw [withoutBreak] at hsame
  split at hsame
  · rename_i htakes
    obtain ⟨c, hmem, hother⟩ := hcode.exists_mem_slice
    generalize extent buffer = ends at hsame hmem htakes
    obtain ⟨first, last⟩ := ends
    obtain ⟨front, hpoint, htext, hfirst, hlast⟩ := Buffer.exists_of_takesBreak htakes
    rw [Buffer.slice_past_end hfirst hlast, List.mem_append, List.mem_singleton,
      or_iff_left hother] at hmem
    generalize buffer.text.drop first = rest at htext hmem
    have hmoved : rest ++ '\n' :: [] = '\n' :: (rest ++ []) := by
      rw [htext, hpoint, Nat.add_sub_cancel, List.eraseIdx_append_of_length_le le_rfl,
        Nat.sub_self, List.eraseIdx_cons_zero, List.append_assoc] at hsame
      rw [List.append_nil]
      exact List.append_cancel_left hsame
    exact hother ((Text.append_cons_eq_iff '\n' rest []).mp hmoved c hmem)
  · simp at hsame

end

/-- Where some line of the extent is code, toggling, selecting what was put in and toggling again
gives the text that there was exactly if no selection reaches over the line feed that closes the
text. Otherwise it has a line feed more at its end, and lacks the one in front of the extent if that
goes with whole lines. -/
theorem toggle_toggledSelected_iff (buffer : Buffer) (rule : BreakRule) (hcode : HasCode buffer) :
    (toggledSelected buffer rule).slice (extent (toggledSelected buffer rule)).1
        (extent (toggledSelected buffer rule)).2 = toggled buffer ∧
      (toggle (toggledSelected buffer rule) rule).text =
        withoutBreak buffer rule ++
          (if (extent buffer).2 ≤ buffer.text.length then [] else ['\n']) ∧
      ((toggle (toggledSelected buffer rule) rule).text = buffer.text ↔
        ∀ first last, buffer.selection = some (first, last) → last ≤ buffer.text.length) := by
  have htext := (hcode.text_toggle_toggledSelected rule).trans (hcode.withExtent_slice rule)
  refine ⟨hcode.slice_toggledSelected rule, htext, ?_⟩
  rw [htext, ← hcode.extent_le_iff]
  by_cases hlast : (extent buffer).2 ≤ buffer.text.length
  · rw [withoutBreak, Buffer.takesBreak_eq_false rule hlast]
    simp [hlast]
  · simpa [hlast] using hcode.withoutBreak_ne rule

/-- Code with a comment sign in it, a blank line and a comment are selected. -/
def mixed : Buffer :=
  { text := "kas a = 1\n  say 1 # one\n   \n# two\nsay a".toList, selection := some (10, 33) }

theorem toggle_toggledSelected_mixed :
    HasCode mixed ∧ toggled mixed = "#   say 1 # one\n   \n# # two".toList ∧
      (toggle (toggledSelected mixed .goes) .goes).text = mixed.text := by
  have hcode : HasCode mixed := ⟨"  say 1 # one".toList, List.mem_cons_self, rfl, rfl⟩
  refine ⟨hcode, rfl, (toggle_toggledSelected_iff mixed .goes hcode).2.2.mpr ?_⟩
  intro first last hselection
  obtain ⟨-, rfl⟩ := Prod.mk.inj (Option.some.inj hselection)
  decide

/-- The selection reaches over the line feed that closes the text. -/
def wholeSelected : Buffer := { text := ['x'], selection := some (0, 2) }

/-- A line feed comes in with the comment sign and stays when that one goes. -/
theorem toggle_toggledSelected_wholeSelected :
    let twice (rule : BreakRule) := (toggle (toggledSelected wholeSelected rule) rule).text
    HasCode wholeSelected ∧ toggled wholeSelected = "# x\n".toList ∧
      twice .stays = "x\n".toList ∧ twice .goes = "x\n".toList ∧
      wholeSelected.text ≠ "x\n".toList :=
  ⟨⟨['x'], List.mem_cons_self, rfl, rfl⟩, rfl, rfl, rfl, by decide⟩

-- Behind another line, the line feed between the two may go as well.
example :
    let buffer : Buffer := { text := "a\nx".toList, selection := some (2, 4) }
    (toggle buffer .goes).text = "a# x\n".toList ∧
      (toggle (toggledSelected buffer .goes) .goes).text = "ax\n".toList := by
  decide

end Comment

end ScriptStudio
