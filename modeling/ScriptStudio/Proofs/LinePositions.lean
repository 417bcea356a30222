import Mathlib.Data.List.TakeWhile
import ScriptStudio.Buffer.Basic
import ScriptStudio.Proofs.ScanLines

/-!
# Positions and lines

What stands before a position is some lines with the line feeds that close them, and then the part
of a last line. A line and a column lead back to positions in that line.

* `Buffer.positionFrom_add`: closed lines are passed over.
* `Buffer.lt_position`: a line is behind the points with fewer line feeds in front of them.
* `Buffer.LineAt`: the line of a position, and where the position of its start and its end are.
* `Buffer.between_ends_iff`: the characters of a line.
-/

namespace ScriptStudio

namespace Buffer

/-- Lines, each with the line feed that closes it. -/
inductive ClosedLines : List Char → Prop
  | nil : ClosedLines []
  | cons {line rest : List Char} (hline : '\n' ∉ line) (hrest : ClosedLines rest) :
    ClosedLines (line ++ '\n' :: rest)

variable {front : List Char} {lines : Nat} {buffer : Buffer}

theorem ClosedLines.eq_newline (h : ClosedLines front) {c : Char} (hc : c ∈ front.getLast?) :
    c = '\n' := by
  induction h with
  | nil => cases hc
  | @cons line rest _ _ ih =>
    cases rest with
    | nil => simpa [eq_comm] using hc
    | cons d others =>
      apply ih
      simpa [List.getLast?_append] using hc

theorem ClosedLines.append {more : List Char} (hfront : ClosedLines front)
    (hmore : ClosedLines more) : ClosedLines (front ++ more) := by
  induction hfront with
  | nil => exact hmore
  | cons hline _ ih =>
    rw [List.append_assoc, List.cons_append]
    exact .cons hline ih

/-- Every text is closed lines and a part of a line. -/
theorem exists_closedLines (chars : List Char) :
    ∃ front current, chars = front ++ current ∧ ClosedLines front ∧ '\n' ∉ current := by
  induction chars with
  | nil => exact ⟨[], [], rfl, .nil, List.not_mem_nil⟩
  | cons c rest ih =>
    obtain ⟨front, current, rfl, hfront, hcurrent⟩ := ih
    by_cases hc : c = '\n'
    · subst hc
      exact ⟨'\n' :: front, current, rfl, .cons List.not_mem_nil hfront, hcurrent⟩
    · cases hfront with
      | nil =>
        exact ⟨[], c :: current, rfl, .nil,
          List.not_mem_cons_of_ne_of_not_mem (Ne.symm hc) hcurrent⟩
      | @cons line rest hline hrest =>
        exact ⟨(c :: line) ++ '\n' :: rest, current, by simp,
          .cons (List.not_mem_cons_of_ne_of_not_mem (Ne.symm hc) hline) hrest, hcurrent⟩

/-- The first so many line feeds of a text close lines. -/
theorem exists_closedLines_of_le {chars : List Char} (h : lines ≤ chars.count '\n') :
    ∃ front rest, chars = front ++ rest ∧ ClosedLines front ∧ front.count '\n' = lines := by
  induction lines with
  | zero => exact ⟨[], chars, rfl, .nil, rfl⟩
  | succ lines ih =>
    obtain ⟨front, rest, rfl, hfront, hcount⟩ := ih (Nat.le_of_succ_le h)
    have hmem : '\n' ∈ rest := by
      rw [← List.count_pos_iff]
      rw [List.count_append] at h
      omega
    obtain ⟨line, later, rfl, hline⟩ := List.eq_append_cons_of_mem hmem
    refine ⟨front ++ (line ++ ['\n']), later, by simp, hfront.append (.cons hline .nil), ?_⟩
    rw [List.count_append, hcount, List.count_append, List.count_eq_zero_of_not_mem hline]
    rfl

theorem takeWhile_line {line : List Char} (hline : '\n' ∉ line) (rest : List Char) :
    (line ++ '\n' :: rest).takeWhile (· != '\n') = line := by
  rw [Pattern.takeWhile_append_newline (by decide), List.takeWhile_eq_self_iff]
  intro c hc
  rw [bne_iff_ne]
  rintro rfl
  exact hline hc

/-- Closed lines are passed over. -/
theorem positionFrom_add (hfront : ClosedLines front) (column lines : Nat) (rest : List Char) :
    positionFrom column (front.count '\n' + lines) (front ++ rest) =
      front.length + positionFrom column lines rest := by
  induction hfront with
  | nil => simp
  | @cons line more hline hmore ih =>
    have hcount : (line ++ '\n' :: more).count '\n' + lines = more.count '\n' + lines + 1 := by
      rw [List.count_append, List.count_eq_zero_of_not_mem hline, List.count_cons_self]
      omega
    rw [hcount, List.append_assoc, List.cons_append, positionFrom, takeWhile_line hline,
      List.drop_left]
    dsimp only
    rw [ih, List.length_append, List.length_cons]
    omega

theorem positionFrom_append (hfront : ClosedLines front) (column : Nat) (rest : List Char) :
    positionFrom column (front.count '\n') (front ++ rest) =
      front.length + min column (rest.takeWhile (· != '\n')).length :=
  positionFrom_add hfront column 0 rest

/-- A line past the last is the end of the text. -/
theorem positionFrom_of_count_lt {chars : List Char} (h : chars.count '\n' < lines) (column : Nat) :
    positionFrom column lines chars = chars.length := by
  obtain ⟨front, current, rfl, hfront, hcurrent⟩ := exists_closedLines chars
  rw [List.count_append, List.count_eq_zero_of_not_mem hcurrent, Nat.add_zero] at h
  obtain ⟨more, rfl⟩ := Nat.exists_eq_add_of_lt h
  have hline : current.takeWhile (· != '\n') = current := by
    rw [List.takeWhile_eq_self_iff]
    intro c hc
    rw [bne_iff_ne]
    rintro rfl
    exact hcurrent hc
  rw [Nat.add_assoc, positionFrom_add hfront, positionFrom, hline, List.drop_length,
    List.length_append]

theorem position_of_content {rest : List Char} (hfront : ClosedLines front)
    (hcontent : buffer.content = front ++ rest) (column : Nat) :
    buffer.position (front.count '\n' + 1) column =
      front.length + min column (rest.takeWhile (· != '\n')).length := by
  have hfrom := positionFrom_append hfront column rest
  rw [← hcontent] at hfrom
  exact hfrom

theorem length_content (buffer : Buffer) : buffer.content.length = buffer.size := by
  simp [content, size]

theorem position_of_count_lt (h : buffer.content.count '\n' < lines) (column : Nat) :
    buffer.position (lines + 1) column = buffer.size :=
  (positionFrom_of_count_lt h column).trans buffer.length_content

theorem position_le (buffer : Buffer) (line column : Nat) :
    buffer.position line column ≤ buffer.size := by
  cases line with
  | zero => exact Nat.zero_le _
  | succ lines =>
    rcases Nat.lt_or_ge (buffer.content.count '\n') lines with hlt | hle
    · exact (position_of_count_lt hlt column).le
    · obtain ⟨front, rest, hcontent, hfront, rfl⟩ := exists_closedLines_of_le hle
      have hline := (List.takeWhile_sublist (p := (· != '\n')) (l := rest)).length_le
      rw [position_of_content hfront hcontent, ← length_content, hcontent, List.length_append]
      omega

/-- Every position of a line is behind the points with fewer line feeds in front of them. -/
theorem lt_position {point : Nat} (hpoint : point < buffer.size)
    (h : (buffer.content.take point).count '\n' < lines) (column : Nat) :
    point < buffer.position (lines + 1) column := by
  rcases Nat.lt_or_ge (buffer.content.count '\n') lines with hlt | hle
  · rwa [position_of_count_lt hlt]
  · obtain ⟨front, rest, hcontent, hfront, rfl⟩ := exists_closedLines_of_le hle
    have hfront' : point < front.length := by
      by_contra hge
      rw [hcontent, List.take_append, List.take_of_length_le (Nat.le_of_not_lt hge),
        List.count_append] at h
      omega
    rw [position_of_content hfront hcontent]
    omega

/-- What stands before a position: closed lines, and the part of its own line. -/
structure LineAt (buffer : Buffer) (position : Nat) (front current : List Char) : Prop where
  take_eq : buffer.content.take position = front ++ current
  closed : ClosedLines front
  notMem : '\n' ∉ current

theorem exists_lineAt (buffer : Buffer) (position : Nat) :
    ∃ front current, LineAt buffer position front current := by
  obtain ⟨front, current, htake, hclosed, hcurrent⟩ :=
    exists_closedLines (buffer.content.take position)
  exact ⟨front, current, htake, hclosed, hcurrent⟩

namespace LineAt

variable {buffer : Buffer} {position : Nat} {front current : List Char}

/-- The line of the position goes on up to its own line feed. -/
theorem content_eq (h : LineAt buffer position front current) :
    buffer.content = front ++ (current ++ buffer.content.drop position) := by
  rw [← List.append_assoc, ← h.take_eq, List.take_append_drop]

theorem bne_newline (h : LineAt buffer position front current) :
    ∀ c ∈ current, (c != '\n') = true := by
  intro c hc
  rw [bne_iff_ne]
  rintro rfl
  exact h.notMem hc

theorem line_eq (h : LineAt buffer position front current) :
    (buffer.place position).line = front.count '\n' + 1 := by
  rw [place, placeAfter, h.take_eq, List.count_append, List.count_eq_zero_of_not_mem h.notMem,
    Nat.add_zero, Nat.add_comm]

theorem column_eq (h : LineAt buffer position front current) :
    (buffer.place position).column = current.length := by
  have hcurrent : ∀ c ∈ current.reverse, (c != '\n') = true :=
    fun c hc => h.bne_newline c (List.mem_reverse.mp hc)
  have hfront : front.reverse.takeWhile (· != '\n') = [] := by
    cases hreverse : front.reverse with
    | nil => rfl
    | cons c rest =>
      have hlast : front.getLast? = some c := by
        rw [← List.head?_reverse, hreverse, List.head?_cons]
      rw [h.closed.eq_newline hlast]
      exact List.takeWhile_cons_of_neg (by decide)
  rw [place, placeAfter, h.take_eq, List.reverse_append, List.takeWhile_append_of_pos hcurrent,
    hfront, List.append_nil, List.length_reverse]

theorem position_eq (h : LineAt buffer position front current) (column : Nat) :
    buffer.position (buffer.place position).line column =
      front.length +
        min column ((current ++ buffer.content.drop position).takeWhile (· != '\n')).length := by
  rw [h.line_eq]
  exact position_of_content h.closed h.content_eq column

theorem position_start (h : LineAt buffer position front current) :
    buffer.position (buffer.place position).line 0 = front.length := by
  rw [h.position_eq, Nat.zero_min, Nat.add_zero]

/-- The line and the column of a position lead back to it. -/
theorem position_place (h : LineAt buffer position front current) (hend : position ≤ buffer.size) :
    buffer.position (buffer.place position).line (buffer.place position).column = position := by
  have hlength := congrArg List.length h.take_eq
  rw [List.length_take_of_le (by rwa [content, List.length_append]), List.length_append] at hlength
  rw [h.position_eq, h.column_eq, List.takeWhile_append_of_pos h.bne_newline, List.length_append]
  omega

/-- The characters of the line before the position. -/
theorem slice_start (h : LineAt buffer position front current) :
    buffer.slice (buffer.position (buffer.place position).line 0) position = current := by
  rw [h.position_start, slice, h.take_eq, List.drop_left]

/-- Behind the line feed that closes the text there is no line. -/
theorem current_eq_nil (h : LineAt buffer position front current) (hend : buffer.size ≤ position) :
    front = buffer.content ∧ current = [] := by
  have hcontent : front ++ current = buffer.content := by
    rw [← h.take_eq, List.take_of_length_le]
    rwa [content, List.length_append]
  rcases List.eq_nil_or_concat current with rfl | ⟨line, c, rfl⟩
  · exact ⟨by rw [← hcontent, List.append_nil], rfl⟩
  · rw [content, List.concat_eq_append, ← List.append_assoc] at hcontent
    obtain ⟨-, hc⟩ := List.append_inj' hcontent rfl
    have hmem := h.notMem
    rw [List.concat_eq_append, hc] at hmem
    simp at hmem

/-- A line that is not behind the whole text ends inside it. -/
theorem lineEnd_le (h : LineAt buffer position front current) (hend : position < buffer.size) :
    buffer.lineEnd (buffer.place position).line ≤ buffer.text.length := by
  have hdrop : buffer.content.drop position = buffer.text.drop position ++ ['\n'] :=
    List.drop_append_of_le_length (Nat.le_of_lt_succ hend)
  have hlength := congrArg List.length h.content_eq
  rw [lineEnd, h.position_eq, hdrop, ← List.append_assoc,
    Pattern.takeWhile_append_newline (by decide)]
  have hline := (List.takeWhile_sublist (p := (· != '\n'))
    (l := current ++ buffer.text.drop position)).length_le
  rw [hdrop, content, List.length_append] at hlength
  simp only [List.length_append, List.length_singleton] at hlength hline
  omega

end LineAt

/-- The line and the column of a position lead back to it. -/
theorem position_place (buffer : Buffer) {position : Nat} (h : position ≤ buffer.size) :
    buffer.position (buffer.place position).line (buffer.place position).column = position := by
  obtain ⟨_, _, hline⟩ := buffer.exists_lineAt position
  exact hline.position_place h

theorem count_le_of_lt_lineEnd {point : Nat} (h : point < buffer.lineEnd (lines + 1)) :
    (buffer.content.take point).count '\n' ≤ lines := by
  rcases Nat.lt_or_ge (buffer.content.count '\n') lines with hlt | hle
  · exact ((List.take_sublist _ _).count_le _).trans hlt.le
  · obtain ⟨front, rest, hcontent, hfront, rfl⟩ := exists_closedLines_of_le hle
    have hline : '\n' ∉ rest.takeWhile (· != '\n') := fun hmem => by
      simpa using List.mem_takeWhile_imp hmem
    rw [lineEnd, position_of_content hfront hcontent] at h
    have hshape : buffer.content =
        (front ++ rest.takeWhile (· != '\n')) ++ rest.dropWhile (· != '\n') := by
      rw [hcontent, List.append_assoc, List.takeWhile_append_dropWhile]
    have hinside : point ≤ (front ++ rest.takeWhile (· != '\n')).length := by
      rw [List.length_append]
      omega
    rw [hshape, List.take_append_of_le_length hinside]
    have hcount := (List.take_sublist point (front ++ rest.takeWhile (· != '\n'))).count_le '\n'
    rwa [List.count_append, List.count_eq_zero_of_not_mem hline] at hcount

/-- A character that is no line feed lies between the ends of its own line and of no other. -/
theorem between_ends_iff {point line : Nat} (hpoint : point < buffer.size)
    (hchar : buffer.charAt? point ≠ some '\n') :
    buffer.position line 0 ≤ point ∧ point < buffer.lineEnd line ↔
      line = (buffer.place point).line := by
  obtain ⟨front, current, hat⟩ := buffer.exists_lineAt point
  constructor
  · rintro ⟨hfirst, hlast⟩
    cases line with
    | zero => exact absurd hlast (Nat.not_lt_zero _)
    | succ lines =>
      have hle := count_le_of_lt_lineEnd hlast
      have hge : lines ≤ (buffer.content.take point).count '\n' := by
        by_contra hlt
        have hbehind := lt_position hpoint (Nat.lt_of_not_le hlt) 0
        omega
      change lines + 1 = 1 + (buffer.content.take point).count '\n'
      omega
  · rintro rfl
    rw [← length_content] at hpoint
    have hother : (buffer.content.get ⟨point, hpoint⟩ != '\n') = true := by
      rw [charAt?, List.getElem?_eq_getElem hpoint] at hchar
      simpa using hchar
    have hlength := congrArg List.length hat.take_eq
    rw [List.length_take_of_le hpoint.le, List.length_append] at hlength
    have hrest : buffer.content.drop point =
        buffer.content.get ⟨point, hpoint⟩ :: buffer.content.drop (point + 1) :=
      List.drop_eq_getElem_cons hpoint
    refine ⟨by rw [hat.position_start]; omega, ?_⟩
    rw [length_content] at hpoint
    rw [lineEnd, hat.position_eq, List.takeWhile_append_of_pos hat.bne_newline, hrest,
      List.takeWhile_cons_of_pos (p := (· != '\n')) hother, List.length_append, List.length_cons]
    omega

end Buffer

end ScriptStudio
