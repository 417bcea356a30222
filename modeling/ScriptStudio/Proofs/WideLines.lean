import ScriptStudio.Proofs.LinePositions
import ScriptStudio.Text.Lines

/-!
# Lines in the wide sense

In the wide sense a line ends at every line boundary of Unicode, and a carriage return with a line
feed after it is one boundary. In a buffer a line ends at a line feed only. The two ways to number
lines part at the first boundary without a line feed, which is called stray here.

* `Text.Passed`: whole lines in the wide sense at the front of a text.
* `Text.Passed.wideLines_append`: they are split off.
* `Text.Passed.count_lt_iff`: they are more than the line feeds in them exactly if a stray boundary
  is among them.
* `Text.Passed.spread`: it does not matter how columns are counted.
* `Buffer.position_of_not_strayBefore`, `Buffer.lt_position_of_strayBefore`: what a buffer makes of
  the number of such a line.
-/

namespace ScriptStudio

namespace Text

/-- The text has no line boundary in it. -/
def Unbroken (line : List Char) : Prop := ∀ c ∈ line, isLineBoundary c = false

variable {line ending rest front : List Char} {count : Nat}

theorem Unbroken.newline_not_mem (h : Unbroken line) : '\n' ∉ line :=
  fun hmem => absurd (h _ hmem) (by decide)

/-- What ends a line in front of a text: a boundary, or a carriage return with a line feed. -/
inductive EndsLine : List Char → List Char → Prop
  | pair {later : List Char} : EndsLine ['\r', '\n'] later
  | single {c : Char} {later : List Char} (hc : isLineBoundary c = true)
    (hpair : ¬(c = '\r' ∧ later.head? = some '\n')) : EndsLine [c] later

/-- So many lines, each with its end, stand in front of a text. -/
inductive Passed : Nat → List Char → List Char → Prop
  | none {rest : List Char} : Passed 0 [] rest
  | line {count : Nat} {line ending more rest : List Char} (hline : Unbroken line)
    (hending : EndsLine ending (more ++ rest)) (hmore : Passed count more rest) :
    Passed (count + 1) (line ++ (ending ++ more)) rest

/-! ## Splitting -/

theorem wideLinesFrom_unbroken (hline : Unbroken line) (current rest : List Char) :
    wideLinesFrom current (line ++ rest) = wideLinesFrom (line.reverse ++ current) rest := by
  induction line generalizing current with
  | nil => rfl
  | cons c line ih =>
    have hc : isLineBoundary c = false := hline c List.mem_cons_self
    have hreturn : c ≠ '\r' := by
      rintro rfl
      exact absurd hc (by decide)
    rw [List.cons_append, wideLinesFrom.eq_3 _ _ _ (fun _ h _ => hreturn h), hc,
      if_neg Bool.false_ne_true, ih fun d hd => hline d (List.mem_cons_of_mem c hd),
      List.reverse_cons, List.append_assoc, List.singleton_append]

theorem wideLines_of_unbroken (hline : Unbroken line) (hne : line ≠ []) :
    wideLines line = [line] := by
  have hsplit := wideLinesFrom_unbroken hline [] []
  rw [List.append_nil, List.append_nil] at hsplit
  rw [wideLines, hsplit, wideLinesFrom, List.isEmpty_reverse, if_neg (by simpa using hne),
    List.reverse_reverse]

theorem wideLines_cons {later : List Char} (hline : Unbroken line)
    (hending : EndsLine ending later) :
    wideLines (line ++ (ending ++ later)) = line :: wideLines later := by
  rw [wideLines, wideLinesFrom_unbroken hline, List.append_nil]
  cases hending with
  | pair => rw [List.cons_append, List.cons_append, List.nil_append, wideLinesFrom,
      List.reverse_reverse, wideLines]
  | @single c _ hc hpair =>
    have hlater : ∀ rest, c = '\r' → later = '\n' :: rest → False := by
      rintro rest hreturn rfl
      exact hpair ⟨hreturn, rfl⟩
    rw [List.singleton_append, wideLinesFrom.eq_3 _ _ _ hlater, if_pos hc, List.reverse_reverse,
      wideLines]

/-- A text has no boundary, or its first line is split off. -/
theorem unbroken_or_exists_line (text : List Char) :
    Unbroken text ∨ ∃ line ending later, text = line ++ (ending ++ later) ∧ Unbroken line ∧
      EndsLine ending later := by
  have hline : Unbroken (text.takeWhile (!isLineBoundary ·)) := fun c hc => by
    simpa using List.mem_takeWhile_imp hc
  have htext := List.takeWhile_append_dropWhile (p := (!isLineBoundary ·)) (l := text)
  cases hdrop : text.dropWhile (!isLineBoundary ·) with
  | nil =>
    rw [hdrop, List.append_nil] at htext
    exact .inl (htext ▸ hline)
  | cons c later =>
    have hc : isLineBoundary c = true := by
      have hhead := List.head?_dropWhile_not (!isLineBoundary ·) text
      rw [hdrop] at hhead
      simpa using hhead
    refine .inr ?_
    rw [hdrop] at htext
    by_cases hpair : c = '\r' ∧ later.head? = some '\n'
    · obtain ⟨rfl, hhead⟩ := hpair
      obtain ⟨rest, rfl⟩ := List.head?_eq_some_iff.mp hhead
      exact ⟨_, _, rest, htext.symm, hline, .pair⟩
    · exact ⟨_, [c], later, htext.symm, hline, .single hc hpair⟩

theorem EndsLine.of_append {more : List Char} (h : EndsLine ending (more ++ rest)) :
    EndsLine ending more := by
  cases h with
  | pair => exact .pair
  | single hc hpair =>
    refine .single hc fun h => hpair ⟨h.1, ?_⟩
    rw [List.head?_append, h.2]
    rfl

/-- Lines that are passed are split as if nothing followed on them. -/
theorem Passed.wideLines_append (h : Passed count front rest) :
    wideLines (front ++ rest) = wideLines front ++ wideLines rest := by
  induction h with
  | none => rfl
  | line hline hending _ ih =>
    rw [List.append_assoc, List.append_assoc, wideLines_cons hline hending, ih,
      wideLines_cons hline hending.of_append, List.cons_append]

theorem Passed.length_wideLines (h : Passed count front rest) :
    (wideLines front).length = count := by
  induction h with
  | none => rfl
  | line hline hending _ ih => rw [wideLines_cons hline hending.of_append, List.length_cons, ih]

theorem exists_passed {text : List Char} (h : (wideLines text)[count]? = some line) :
    ∃ front behind, text = front ++ (line ++ behind) ∧ Passed count front (line ++ behind) ∧
      Unbroken line := by
  -- The induction follows the text and not its lines, since a line says nothing about its end.
  induction hlength : text.length using Nat.strong_induction_on generalizing text count with
  | _ length ih =>
    rcases unbroken_or_exists_line text with
      hunbroken | ⟨first, ending, later, rfl, hfirst, hending⟩
    · by_cases hne : text = []
      · rw [hne] at h
        cases h
      · rw [wideLines_of_unbroken hunbroken hne] at h
        cases count with
        | zero =>
          cases h
          exact ⟨[], [], by simp, .none, hunbroken⟩
        | succ count => cases h
    · rw [wideLines_cons hfirst hending] at h
      cases count with
      | zero =>
        cases h
        exact ⟨[], ending ++ later, rfl, .none, hfirst⟩
      | succ count =>
        have hshorter : later.length < length := by
          rw [← hlength]
          cases hending with
          | pair | single => simp only [List.length_append, List.length_cons]; omega
        obtain ⟨front, behind, hlater, hpassed, hline⟩ := ih _ hshorter h rfl
        refine ⟨first ++ (ending ++ front), behind, by simp [hlater], ?_, hline⟩
        exact .line hfirst (hlater ▸ hending) hpassed

/-! ## Stray boundaries -/

/-- The character at the position is a boundary without a line feed. -/
def straysAt (text : List Char) (position : Nat) : Bool :=
  match text.drop position with
  | [] => false
  | c :: later => isLineBoundary c && c != '\n' && !(c == '\r' && later.head? == some '\n')

/-- A stray boundary stands in front of a position. -/
def StrayBefore (text : List Char) (limit : Nat) : Prop :=
  ∃ position < limit, straysAt text position = true

theorem straysAt_append (front rest : List Char) (position : Nat) :
    straysAt (front ++ rest) (front.length + position) = straysAt rest position := by
  rw [straysAt, straysAt, List.drop_length_add_append]

theorem straysAt_unbroken (hline : Unbroken line) (rest : List Char) {position : Nat}
    (h : position < line.length) : straysAt (line ++ rest) position = false := by
  have hchar := hline _ (List.getElem_mem h)
  rw [straysAt, List.drop_append_of_le_length h.le, List.drop_eq_getElem_cons h, List.cons_append]
  simp [hchar]

theorem strayBefore_unbroken (hline : Unbroken line) (rest : List Char) (limit : Nat) :
    StrayBefore (line ++ rest) (line.length + limit) ↔ StrayBefore rest limit := by
  constructor
  · rintro ⟨position, hlt, hstrays⟩
    by_cases hinside : position < line.length
    · rw [straysAt_unbroken hline rest hinside] at hstrays
      cases hstrays
    · obtain ⟨offset, rfl⟩ := Nat.exists_eq_add_of_le (Nat.le_of_not_lt hinside)
      rw [straysAt_append] at hstrays
      exact ⟨offset, by omega, hstrays⟩
  · rintro ⟨position, hlt, hstrays⟩
    exact ⟨line.length + position, by omega, by rwa [straysAt_append]⟩

/-- A part of a line adds no stray boundary. -/
theorem strayBefore_add {before : List Char} (hbefore : Unbroken before) (front rest : List Char) :
    StrayBefore (front ++ (before ++ rest)) (front.length + before.length) ↔
      StrayBefore (front ++ (before ++ rest)) front.length := by
  constructor
  · rintro ⟨position, hlt, hstrays⟩
    by_cases hinside : position < front.length
    · exact ⟨position, hinside, hstrays⟩
    · obtain ⟨offset, rfl⟩ := Nat.exists_eq_add_of_le (Nat.le_of_not_lt hinside)
      rw [straysAt_append, straysAt_unbroken hbefore rest (by omega)] at hstrays
      cases hstrays
  · rintro ⟨position, hlt, hstrays⟩
    exact ⟨position, by omega, hstrays⟩

theorem strayBefore_cons (c : Char) (rest : List Char) (limit : Nat) :
    StrayBefore (c :: rest) (limit + 1) ↔
      straysAt (c :: rest) 0 = true ∨ StrayBefore rest limit := by
  constructor
  · rintro ⟨position, hlt, hstrays⟩
    cases position with
    | zero => exact .inl hstrays
    | succ position => exact .inr ⟨position, by omega, hstrays⟩
  · rintro (hstrays | ⟨position, hlt, hstrays⟩)
    · exact ⟨0, by omega, hstrays⟩
    · exact ⟨position + 1, by omega, hstrays⟩

/-- The end of a line has a line feed, or is stray. -/
theorem EndsLine.cases_newline {later : List Char} (h : EndsLine ending later) :
    (∃ before, ending = before ++ ['\n'] ∧ '\n' ∉ before ∧ ∀ limit,
        (StrayBefore (ending ++ later) (ending.length + limit) ↔ StrayBefore later limit)) ∨
      '\n' ∉ ending ∧ ∀ limit, StrayBefore (ending ++ later) (ending.length + limit) := by
  cases h with
  | pair =>
    refine .inl ⟨['\r'], rfl, by decide, fun limit => ?_⟩
    have hlength : ['\r', '\n'].length + limit = limit + 1 + 1 := by
      simp only [List.length_cons, List.length_nil]
      omega
    rw [hlength, List.cons_append, strayBefore_cons, List.singleton_append, strayBefore_cons]
    simp [straysAt]
  | @single c _ hc hpair =>
    have hlength : ∀ limit, [c].length + limit = limit + 1 := fun limit => Nat.add_comm _ _
    by_cases hnewline : c = '\n'
    · subst hnewline
      refine .inl ⟨[], rfl, List.not_mem_nil, fun limit => ?_⟩
      rw [hlength, List.singleton_append, strayBefore_cons]
      simp [straysAt]
    · refine .inr ⟨by simpa using Ne.symm hnewline, fun limit => ?_⟩
      rw [hlength, List.singleton_append, strayBefore_cons]
      refine .inl ?_
      simpa [straysAt, hc, hnewline] using not_and_or.mp hpair

open Buffer (ClosedLines)

/-- There are at least as many lines as line feeds, and more exactly if a boundary among them is
stray; otherwise they are lines also for a buffer. -/
theorem Passed.count_lt_iff (h : Passed count front rest) :
    front.count '\n' ≤ count ∧
      (front.count '\n' < count ↔ StrayBefore (front ++ rest) front.length) ∧
      (front.count '\n' = count → ClosedLines front) := by
  induction h with
  | none => exact ⟨le_rfl, ⟨fun h => absurd h (by decide), fun ⟨_, h, _⟩ => absurd h (by simp)⟩,
      fun _ => .nil⟩
  | @line count line ending more rest hline hending _ ih =>
    obtain ⟨hle, hlt, hclosed⟩ := ih
    have hnone : line.count '\n' = 0 := List.count_eq_zero.mpr hline.newline_not_mem
    have hstray : StrayBefore (line ++ (ending ++ more) ++ rest) (line ++ (ending ++ more)).length ↔
        StrayBefore (ending ++ (more ++ rest)) (ending.length + more.length) := by
      rw [List.append_assoc, List.append_assoc, List.length_append, List.length_append,
        strayBefore_unbroken hline]
    rw [hstray, List.count_append, List.count_append, hnone]
    rcases hending.cases_newline with ⟨before, rfl, hbefore, hlimit⟩ | ⟨hending, hlimit⟩
    · have hone : (before ++ ['\n']).count '\n' = 1 := by
        rw [List.count_append, List.count_eq_zero.mpr hbefore]
        rfl
      rw [hone, hlimit, ← hlt]
      refine ⟨by omega, by omega, fun hcount => ?_⟩
      have hopen : '\n' ∉ line ++ before := by
        rw [List.mem_append, not_or]
        exact ⟨hline.newline_not_mem, hbefore⟩
      have hsame : line ++ (before ++ ['\n'] ++ more) = line ++ before ++ '\n' :: more := by simp
      rw [hsame]
      exact .cons hopen (hclosed (by omega))
    · rw [List.count_eq_zero.mpr hending]
      refine ⟨by omega, ⟨fun _ => hlimit _, fun _ => by omega⟩, fun hcount => by omega⟩

end Text

/-! ## Columns -/

namespace Columns

open Text

variable (columns : Columns)

theorem spread_cons (c : Char) (rest : List Char) :
    columns.spread (c :: rest) = List.replicate (columns.width c) c ++ columns.spread rest := rfl

theorem spread_append (front back : List Char) :
    columns.spread (front ++ back) = columns.spread front ++ columns.spread back :=
  List.flatMap_append

theorem width_pos (c : Char) : 0 < columns.width c := by
  cases columns with
  | points => exact Nat.one_pos
  | units16 =>
    rw [width]
    split <;> decide

theorem mem_spread {c : Char} {chars : List Char} : c ∈ columns.spread chars ↔ c ∈ chars := by
  simp [spread, List.mem_replicate, (columns.width_pos _).ne']

theorem length_le_length_spread (chars : List Char) :
    chars.length ≤ (columns.spread chars).length := by
  induction chars with
  | nil => exact Nat.zero_le _
  | cons c rest ih =>
    have hwidth := columns.width_pos c
    rw [spread_cons, List.length_append, List.length_replicate, List.length_cons]
    omega

theorem length_spread_eq_iff (chars : List Char) :
    (columns.spread chars).length = chars.length ↔ ∀ c ∈ chars, columns.width c = 1 := by
  induction chars with
  | nil => simp [spread]
  | cons c rest ih =>
    have hwidth := columns.width_pos c
    have hrest := columns.length_le_length_spread rest
    rw [spread_cons, List.length_append, List.length_replicate, List.length_cons,
      List.forall_mem_cons, ← ih]
    omega

theorem spread_eq_self {chars : List Char} (h : ∀ c ∈ chars, columns.width c = 1) :
    columns.spread chars = chars := by
  induction chars with
  | nil => rfl
  | cons c rest ih =>
    rw [List.forall_mem_cons] at h
    rw [spread_cons, h.1, ih h.2, List.replicate_one, List.singleton_append]

/-- The boundaries of lines take one column. -/
theorem width_of_isLineBoundary {c : Char} (hc : isLineBoundary c = true) :
    columns.width c = 1 := by
  cases columns with
  | points => rfl
  | units16 =>
    have hsmall : c.toNat < 0x10000 := by
      simp only [isLineBoundary, Bool.or_eq_true, Bool.and_eq_true, decide_eq_true_eq,
        beq_iff_eq] at hc
      omega
    exact if_pos hsmall

theorem count_newline_spread (chars : List Char) :
    (columns.spread chars).count '\n' = chars.count '\n' := by
  induction chars with
  | nil => rfl
  | cons c rest ih =>
    rw [spread_cons, List.count_append, ih]
    by_cases hc : c = '\n'
    · subst hc
      rw [columns.width_of_isLineBoundary (by decide), List.count_cons_self, Nat.add_comm]
      rfl
    · rw [List.count_cons_of_ne hc, List.count_replicate, if_neg (by simpa using hc), Nat.zero_add]

end Columns

namespace Text

variable {count : Nat} {front rest line ending : List Char} (columns : Columns)

theorem Unbroken.spread (h : Unbroken line) : Unbroken (columns.spread line) :=
  fun c hc => h c (columns.mem_spread.mp hc)

theorem EndsLine.spread {later : List Char} (h : EndsLine ending later) :
    columns.spread ending = ending ∧ EndsLine ending (columns.spread later) := by
  refine ⟨columns.spread_eq_self fun c hc => columns.width_of_isLineBoundary ?_, ?_⟩
  · cases h with
    | pair => simp only [List.mem_cons, List.not_mem_nil, or_false] at hc
              rcases hc with rfl | rfl <;> decide
    | single hboundary => rwa [List.mem_singleton.mp hc]
  · cases h with
    | pair => exact .pair
    | single hboundary hpair =>
      refine .single hboundary fun h => hpair ⟨h.1, ?_⟩
      cases later with
      | nil => exact h.2
      | cons c rest =>
        obtain ⟨more, hmore⟩ := Nat.exists_eq_succ_of_ne_zero (columns.width_pos c).ne'
        have hhead := h.2
        rw [columns.spread_cons, hmore, List.replicate_succ] at hhead
        exact hhead

/-- Lines are passed alike, however columns are counted. -/
theorem Passed.spread (h : Passed count front rest) :
    Passed count (columns.spread front) (columns.spread rest) := by
  induction h with
  | none => exact .none
  | line hline hending _ ih =>
    obtain ⟨hsame, hending⟩ := hending.spread columns
    rw [columns.spread_append, columns.spread_append, hsame]
    rw [columns.spread_append] at hending
    exact .line (hline.spread columns) hending ih

theorem Passed.strayBefore_spread (h : Passed count front rest) :
    StrayBefore (columns.spread (front ++ rest)) (columns.spread front).length ↔
      StrayBefore (front ++ rest) front.length := by
  rw [columns.spread_append, ← (h.spread columns).count_lt_iff.2.1, ← h.count_lt_iff.2.1,
    columns.count_newline_spread]

end Text

namespace Buffer

open Text

theorem content_spread (buffer : Buffer) (columns : Columns) :
    (buffer.spread columns).content = columns.spread buffer.content := by
  have hclosing : columns.spread ['\n'] = ['\n'] := by cases columns <;> rfl
  rw [content, content, columns.spread_append, hclosing]
  rfl

variable {buffer : Buffer} {front line behind : List Char} {count : Nat}

/-- Without a stray boundary, the lines of a text and of the buffer have the same numbers. -/
theorem position_of_not_strayBefore (hcontent : buffer.content = front ++ (line ++ behind))
    (hpassed : Passed count front (line ++ behind)) (hline : Unbroken line)
    (hnone : ¬StrayBefore buffer.content front.length) {column : Nat}
    (hcolumn : column ≤ line.length) :
    buffer.position (count + 1) column = front.length + column := by
  obtain ⟨hle, hlt, hclosed⟩ := hpassed.count_lt_iff
  rw [hcontent, ← hlt] at hnone
  obtain rfl : front.count '\n' = count := by omega
  have hwhole : ∀ c ∈ line, (c != '\n') = true := by
    intro c hc
    rw [bne_iff_ne]
    rintro rfl
    exact hline.newline_not_mem hc
  rw [position_of_content (hclosed rfl) hcontent, List.takeWhile_append_of_pos hwhole,
    List.length_append]
  omega

/-- After a stray boundary, the line of that number begins further down. -/
theorem lt_position_of_strayBefore (hcontent : buffer.content = front ++ (line ++ behind))
    (hpassed : Passed count front (line ++ behind)) (hline : Unbroken line)
    (hstray : StrayBefore buffer.content front.length) {offset : Nat}
    (hoffset : offset < line.length) (column : Nat) :
    front.length + offset < buffer.position (count + 1) column := by
  obtain ⟨-, hlt, -⟩ := hpassed.count_lt_iff
  rw [hcontent, ← hlt] at hstray
  apply lt_position
  · rw [← length_content, hcontent, List.length_append, List.length_append]
    omega
  · have hpart : '\n' ∉ line.take offset := fun hmem =>
      hline.newline_not_mem (List.mem_of_mem_take hmem)
    rw [hcontent, List.take_length_add_append, List.take_append_of_le_length hoffset.le,
      List.count_append, List.count_eq_zero_of_not_mem hpart]
    exact hstray

end Buffer

end ScriptStudio
