import ScriptStudio.Proofs.CommentToggling

/-!
# Taking comment signs away

Where every line of the extent is blank or a comment, toggling takes away the first comment sign of
each comment and after that a space at the very start of the line. This need not be the space behind
the sign. An indented comment without such a space loses a space of its indentation, and the space
behind the sign stays where the indentation begins with other white space. And where the line feed
in front of whole lines goes with them, the first comment comes to stand behind the line before.

* `Comment.withoutSign`: the line without the sign and the space behind it.
* `Comment.uncommented_eq_withoutSign_iff`: when this is what toggling makes of a line.
* `Comment.text_toggle_comments_iff`: the same for the whole extent.
-/

namespace ScriptStudio

namespace Comment

/-! ## Lines -/

section

variable {line indent body : List Char}

/-- What stands in front of the first comment sign of a line. -/
def indentOf (line : List Char) : List Char := line.takeWhile (· != '#')

/-- What stands behind the first comment sign of a line. -/
def bodyOf (line : List Char) : List Char := (line.dropWhile (· != '#')).tail

/-- The text without one space at its very start. -/
def withoutSpace (text : List Char) : List Char :=
  if text.head? = some ' ' then text.tail else text

/-- The line without its first comment sign and one space directly behind that. -/
def withoutSign (line : List Char) : List Char := indentOf line ++ withoutSpace (bodyOf line)

/-- The space at the start of the line without its sign is the one behind the sign, or there is
neither. -/
def KeepsIndent (line : List Char) : Prop :=
  ((bodyOf line).head? = some ' ' ∧ ∀ c ∈ indentOf line, c = ' ') ∨
    ((bodyOf line).head? ≠ some ' ' ∧ (indentOf line).head? ≠ some ' ')

instance (line : List Char) : Decidable (KeepsIndent line) :=
  decidable_of_iff (((bodyOf line).head? = some ' ' ∧ (indentOf line).all (· == ' ') = true) ∨
    ((bodyOf line).head? ≠ some ' ' ∧ (indentOf line).head? ≠ some ' ')) (by simp [KeepsIndent])

variable {c : Char}

theorem mem_of_mem_withoutSpace {text : List Char} (h : c ∈ withoutSpace text) : c ∈ text := by
  rw [withoutSpace] at h
  split at h
  · exact List.mem_of_mem_tail h
  · exact h

theorem indentOf_append (hindent : '#' ∉ indent) : indentOf (indent ++ '#' :: body) = indent := by
  have hother : ∀ c ∈ indent, (c != '#') = true := by
    intro c hc
    rw [bne_iff_ne]
    rintro rfl
    exact hindent hc
  rw [indentOf, List.takeWhile_append_of_pos hother, List.takeWhile_cons_of_neg (by decide),
    List.append_nil]

theorem bodyOf_append (hindent : '#' ∉ indent) : bodyOf (indent ++ '#' :: body) = body := by
  have hother : ∀ c ∈ indent, (c != '#') = true := by
    intro c hc
    rw [bne_iff_ne]
    rintro rfl
    exact hindent hc
  rw [bodyOf, List.dropWhile_append_of_pos hother, List.dropWhile_cons_of_neg (by decide),
    List.tail_cons]

/-- A comment is white space, its sign and the rest. -/
theorem eq_append_of_isComment (h : isComment line = true) :
    line = indentOf line ++ '#' :: bodyOf line ∧ ∀ c ∈ indentOf line, Text.isBlank c = true := by
  obtain ⟨body, hbody⟩ : ∃ body, line.dropWhile Text.isBlank = '#' :: body :=
    List.head?_eq_some_iff.mp (eq_of_beq h)
  have hblank : ∀ c ∈ line.takeWhile Text.isBlank, Text.isBlank c = true := fun _ =>
    List.mem_takeWhile_imp
  have hline : line.takeWhile Text.isBlank ++ '#' :: body = line := by
    rw [← hbody, List.takeWhile_append_dropWhile]
  have hsign : '#' ∉ line.takeWhile Text.isBlank := fun hmem =>
    absurd (hblank '#' hmem) (by decide)
  have hindent : indentOf line = line.takeWhile Text.isBlank := by
    conv_lhs => rw [← hline]
    exact indentOf_append hsign
  have hrest : bodyOf line = body := by
    rw [← hline]
    exact bodyOf_append hsign
  rw [hindent, hrest]
  exact ⟨hline.symm, hblank⟩

theorem sign_not_mem_indentOf (line : List Char) : '#' ∉ indentOf line := by
  intro hmem
  simpa using List.mem_takeWhile_imp hmem

/-- What toggling makes of a comment. -/
theorem uncommented_of_isComment (h : isComment line = true) :
    uncommented line = withoutSpace (indentOf line ++ bodyOf line) := by
  have herase : line.erase '#' = indentOf line ++ bodyOf line := by
    conv_lhs => rw [(eq_append_of_isComment h).1]
    rw [List.erase_append_right _ (sign_not_mem_indentOf line), List.erase_cons_head]
  rw [uncommented, if_pos h, uncomment, herase, withoutSpace]
  cases indentOf line ++ bodyOf line with
  | nil => rfl
  | cons c rest =>
    by_cases hc : c = ' '
    · subst hc
      rfl
    · simp [hc]

theorem withoutSign_of_isBlankLine (h : isBlankLine line = true) : withoutSign line = line := by
  have hother : ∀ c ∈ line, (c != '#') = true := by
    intro c hc
    rw [bne_iff_ne]
    rintro rfl
    exact absurd (List.all_eq_true.mp h '#' hc) (by decide)
  rw [withoutSign, indentOf, bodyOf, List.takeWhile_eq_self_iff.mpr hother,
    List.dropWhile_eq_nil_iff.mpr hother]
  exact List.append_nil line

theorem uncommented_of_isBlankLine (h : isBlankLine line = true) : uncommented line = line := by
  rw [uncommented, isComment_of_isBlankLine h, if_neg Bool.false_ne_true]

theorem withoutSpace_append_iff (indent body : List Char) :
    withoutSpace (indent ++ body) = indent ++ withoutSpace body ↔
      (body.head? = some ' ' ∧ ∀ c ∈ indent, c = ' ') ∨
        (body.head? ≠ some ' ' ∧ indent.head? ≠ some ' ') := by
  cases indent with
  | nil => simp [em]
  | cons c more =>
    by_cases hbody : body.head? = some ' '
    · obtain ⟨rest, rfl⟩ := List.head?_eq_some_iff.mp hbody
      by_cases hc : c = ' '
      · subst hc
        simpa [withoutSpace] using Text.append_cons_eq_iff ' ' more rest
      · simp [withoutSpace, hc]
    · by_cases hc : c = ' '
      · subst hc
        simp [withoutSpace, hbody]
      · simp [withoutSpace, hbody, hc]

/-- Toggling takes a comment's sign with the space behind it exactly if the space that it takes is
that one. -/
theorem uncommented_eq_withoutSign_iff (h : isComment line = true) :
    uncommented line = withoutSign line ↔ KeepsIndent line := by
  rw [uncommented_of_isComment h]
  exact withoutSpace_append_iff _ _

theorem mem_of_mem_withoutSign (h : c ∈ withoutSign line) : c ∈ line := by
  rcases List.mem_append.mp h with h | h
  · exact (List.takeWhile_sublist _).subset h
  · exact (List.dropWhile_sublist _).subset (List.mem_of_mem_tail (mem_of_mem_withoutSpace h))

theorem mem_of_mem_uncommented (h : c ∈ uncommented line) : c ∈ line := by
  by_cases hcomment : isComment line = true
  · rw [uncommented_of_isComment hcomment] at h
    rw [(eq_append_of_isComment hcomment).1]
    rcases List.mem_append.mp (mem_of_mem_withoutSpace h) with h | h
    · exact List.mem_append_left _ h
    · exact List.mem_append_right _ (List.mem_cons_of_mem _ h)
  · rwa [uncommented, if_neg hcomment] at h

end

/-! ## The extent -/

/-- The lines of the extent. -/
def extentLines (buffer : Buffer) : List (List Char) :=
  Text.splitLines (buffer.slice (extent buffer).1 (extent buffer).2)

theorem joinLines_map_inj {lines : List (List Char)} {f g : List Char → List Char}
    (hne : lines ≠ []) (hf : ∀ line ∈ lines, '\n' ∉ f line) (hg : ∀ line ∈ lines, '\n' ∉ g line) :
    Text.joinLines (lines.map f) = Text.joinLines (lines.map g) ↔
      ∀ line ∈ lines, f line = g line := by
  refine ⟨fun hjoined => ?_, fun heq => by rw [List.map_congr_left heq]⟩
  have hsplit := congrArg Text.splitLines hjoined
  rw [Text.splitLines_joinLines (by simpa using hne) (by simpa using hf),
    Text.splitLines_joinLines (by simpa using hne) (by simpa using hg)] at hsplit
  exact List.map_inj_left.mp hsplit

theorem withExtent_ne_of_takesBreak {buffer : Buffer} {rule : BreakRule}
    (htakes : buffer.takesBreak (extent buffer).1 (extent buffer).2 rule = true)
    {lines : List (List Char)} {f g : List Char → List Char} (hne : lines ≠ [])
    (hf : ∀ line ∈ lines, '\n' ∉ f line) (hg : ∀ line ∈ lines, '\n' ∉ g line) :
    withExtent buffer rule (Text.joinLines (lines.map f)) ≠
      withExtent buffer .stays (Text.joinLines (lines.map g)) := by
  intro hsame
  have hstays : start buffer .stays = (extent buffer).1 := rfl
  have hgoes : start buffer rule = (extent buffer).1 - 1 := if_pos htakes
  obtain ⟨front, hpoint, htext, -⟩ := Buffer.exists_of_takesBreak htakes
  have hbefore : buffer.text.take ((extent buffer).1 - 1) = front := by
    rw [hpoint, Nat.add_sub_cancel, htext, List.take_left]
  have hfront : buffer.text.take (extent buffer).1 = front ++ ['\n'] := by
    rw [hpoint, htext, List.take_length_add_append]
    rfl
  rw [withExtent, withExtent, hstays, hgoes, hbefore, hfront, List.append_left_inj,
    List.append_assoc, List.append_right_inj, List.singleton_append] at hsame
  -- there is one line more on the right
  have hsplit := congrArg Text.splitLines hsame
  have hcons : Text.splitLines ('\n' :: Text.joinLines (lines.map g)) =
      [] :: Text.splitLines (Text.joinLines (lines.map g)) := rfl
  rw [hcons, Text.splitLines_joinLines (by simpa using hne) (by simpa using hf),
    Text.splitLines_joinLines (by simpa using hne) (by simpa using hg)] at hsplit
  have hcount := congrArg List.length hsplit
  rw [List.length_cons, List.length_map, List.length_map] at hcount
  omega

/-- Where every line of the extent is blank or a comment, toggling leaves the blank lines alone and
takes from each comment its first sign and a space at the very start of the line. It takes the sign
and the space behind the sign, and nothing else, exactly if no line feed goes with the lines and
each comment either is indented with spaces only and has a space behind its sign, or has none there
and does not begin with a space. -/
theorem text_toggle_comments_iff (buffer : Buffer) (rule : BreakRule)
    (hcomments : ∀ line ∈ extentLines buffer, isComment line = true ∨ isBlankLine line = true) :
    (toggle buffer rule).text =
        withExtent buffer rule (Text.joinLines ((extentLines buffer).map uncommented)) ∧
      (∀ line ∈ extentLines buffer, isComment line = true →
        line = indentOf line ++ '#' :: bodyOf line ∧
          (∀ c ∈ indentOf line, Text.isBlank c = true) ∧
          uncommented line = withoutSpace (indentOf line ++ bodyOf line)) ∧
      (∀ line ∈ extentLines buffer, isBlankLine line = true → uncommented line = line) ∧
      ((toggle buffer rule).text =
          withExtent buffer .stays (Text.joinLines ((extentLines buffer).map withoutSign)) ↔
        buffer.takesBreak (extent buffer).1 (extent buffer).2 rule = false ∧
          ∀ line ∈ extentLines buffer, isComment line = true → KeepsIndent line) := by
  have hlines : ∀ line ∈ extentLines buffer, '\n' ∉ line := Text.newline_not_mem_splitLines _
  have hne : extentLines buffer ≠ [] := Text.splitLines_ne_nil _
  have huncommented : ∀ line ∈ extentLines buffer, '\n' ∉ uncommented line :=
    fun line hline hmem => hlines line hline (mem_of_mem_uncommented hmem)
  have hwithout : ∀ line ∈ extentLines buffer, '\n' ∉ withoutSign line :=
    fun line hline hmem => hlines line hline (mem_of_mem_withoutSign hmem)
  have htext : (toggle buffer rule).text =
      withExtent buffer rule (Text.joinLines ((extentLines buffer).map uncommented)) := by
    rw [text_toggle, toggled, ← extentLines, toggleLines_of_comments hcomments]
  refine ⟨htext, fun line _ hcomment => ?_, fun line _ => uncommented_of_isBlankLine, ?_⟩
  · obtain ⟨hline, hblank⟩ := eq_append_of_isComment hcomment
    exact ⟨hline, hblank, uncommented_of_isComment hcomment⟩
  · rw [htext]
    cases htakes : buffer.takesBreak (extent buffer).1 (extent buffer).2 rule with
    | true => simpa using withExtent_ne_of_takesBreak htakes hne huncommented hwithout
    | false =>
      have hstart : start buffer rule = start buffer .stays := if_neg (by simp [htakes])
      rw [withExtent, withExtent, hstart, List.append_left_inj, List.append_right_inj,
        joinLines_map_inj hne huncommented hwithout, eq_self_iff_true, true_and]
      refine forall₂_congr fun line hline => ?_
      rcases hcomments line hline with hcomment | hblank
      · simp only [uncommented_eq_withoutSign_iff hcomment, hcomment, forall_const]
      · simp [uncommented_of_isBlankLine hblank, withoutSign_of_isBlankLine hblank,
          isComment_of_isBlankLine hblank]

/-- Comments with and without a space behind the sign, and a blank line. -/
def indentedWell : Buffer :=
  { text := "say 1\n#one\n  #  two\n \n\t#three\nsay 2".toList, selection := some (6, 29) }

theorem text_toggle_indentedWell :
    extentLines indentedWell =
        ["#one".toList, "  #  two".toList, " ".toList, "\t#three".toList] ∧
      (toggle indentedWell .goes).text = "say 1\none\n   two\n \n\tthree\nsay 2".toList := by
  have hlines : extentLines indentedWell =
      ["#one".toList, "  #  two".toList, " ".toList, "\t#three".toList] := by decide
  refine ⟨hlines, ?_⟩
  rw [(text_toggle_comments_iff indentedWell .goes (by rw [hlines]; decide)).2.2.2.mpr
    ⟨by decide, by rw [hlines]; decide⟩]
  decide

/-- A comment behind two spaces, with no space behind its sign. -/
def indentedTight : Buffer := { text := "  #x".toList, selection := some (0, 4) }

/-- The indentation loses a space. -/
theorem text_toggle_indentedTight :
    extentLines indentedTight = ["  #x".toList] ∧ isComment "  #x".toList = true ∧
      withExtent indentedTight .stays
        (Text.joinLines ((extentLines indentedTight).map withoutSign)) = "  x".toList ∧
      (toggle indentedTight .stays).text = " x".toList ∧
      (toggle indentedTight .goes).text = " x".toList := by
  decide

-- A comment in the last line, selected to the very end, joins the line before.
example : (toggle { text := "a\n# x".toList, selection := some (2, 6) } .goes).text =
    "ax\n".toList := by
  decide

end Comment

end ScriptStudio
