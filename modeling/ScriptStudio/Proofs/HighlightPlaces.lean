import ScriptStudio.Proofs.HighlightLexemes
import ScriptStudio.Proofs.WideLines
import ScriptStudio.Studio.Editor

/-!
# Where highlights come to stand

Highlights are found line by line in the wide sense, in characters, and are tagged by line and
column of a buffer, where lines end at line feeds only and a character may take two columns. A tag
covers the lexeme that was found exactly if every boundary in front of it has a line feed and every
character of its line up to the end of the lexeme takes one column. Behind a stray boundary it
begins further down, and behind a character of two columns it ends too early.

* `Highlight.StandsAt`: a highlight and its lexeme in a text.
* `Highlight.exists_standsAt`: every highlight of a text stands in it.
* `Editor.highlight_range_iff`: the tag and the lexeme.
-/

namespace ScriptStudio

namespace Highlight

/-! ## Highlights and their lexemes -/

theorem mem_ofLines {number : Nat} {lines : List (List Char)}
    (h : highlight ∈ ofLines number lines) :
    ∃ count line, lines[count]? = some line ∧ highlight ∈ ofLine (number + count) line := by
  induction lines generalizing number with
  | nil => cases h
  | cons line rest ih =>
    rcases List.mem_append.mp h with hfirst | hrest
    · exact ⟨0, line, rfl, hfirst⟩
    · obtain ⟨count, found, hline, hmem⟩ := ih hrest
      refine ⟨count + 1, found, hline, ?_⟩
      rwa [Nat.add_assoc, Nat.add_comm 1] at hmem

/-- The highlight is of a lexeme in a text: `front` are the lines before its own, of which `before`
and `later` are the parts around the lexeme. -/
structure StandsAt (highlight : Highlight) (content front before lexeme later : List Char) :
    Prop where
  content_eq : ∃ behind, content = front ++ (before ++ (lexeme ++ later) ++ behind)
  lines_eq : ∃ others, Text.wideLines content =
    Text.wideLines front ++ (before ++ (lexeme ++ later)) :: others
  line_eq : highlight.line = (Text.wideLines front).length + 1
  standsIn : highlight.StandsIn before lexeme later

variable {highlight : Highlight} {content front before lexeme later : List Char}

/-- Every highlight of a text is of a lexeme in it. -/
theorem exists_standsAt (h : highlight ∈ ofContent content) :
    ∃ count front before lexeme later behind,
      content = front ++ (before ++ (lexeme ++ later) ++ behind) ∧
      Text.Passed count front (before ++ (lexeme ++ later) ++ behind) ∧
      Text.Unbroken (before ++ (lexeme ++ later)) ∧
      highlight.StandsAt content front before lexeme later := by
  obtain ⟨count, line, hline, hmem⟩ := mem_ofLines h
  obtain ⟨hnumber, before, lexeme, later, rfl, hstands⟩ := exists_standsIn hmem
  obtain ⟨front, behind, hcontent, hpassed, hunbroken⟩ := Text.exists_passed hline
  refine ⟨count, front, before, lexeme, later, behind, hcontent, hpassed, hunbroken,
    ⟨behind, hcontent⟩, ?_, ?_, hstands⟩
  · rw [hcontent, hpassed.wideLines_append] at hline ⊢
    rw [← hpassed.length_wideLines, List.getElem?_append_right le_rfl, Nat.sub_self] at hline
    obtain ⟨others, hothers⟩ := List.head?_eq_some_iff.mp (List.head?_eq_getElem? ▸ hline)
    exact ⟨others, by rw [hothers]⟩
  · rw [hnumber, hpassed.length_wideLines, Nat.add_comm]

end Highlight

/-! ## Tags -/

namespace Buffer

/-- The text that a tag is on. -/
def tagged (buffer : Buffer) (tag : Tag) : List Char :=
  buffer.slice (buffer.range tag).1 (buffer.range tag).2

theorem slice_of_content {buffer : Buffer} {front middle rest : List Char}
    (h : buffer.content = front ++ (middle ++ rest)) :
    buffer.slice front.length (front.length + middle.length) = middle := by
  rw [slice, h, List.take_length_add_append, List.take_left, List.drop_left]

theorem range_highlightTag (buffer : Buffer) (highlight : Highlight) :
    buffer.range (Editor.highlightTag buffer highlight) =
      (buffer.position highlight.line highlight.start,
        buffer.position highlight.line highlight.stop) := by
  rw [range, Editor.highlightTag, position_place _ (position_le _ _ _),
    position_place _ (position_le _ _ _)]

end Buffer

namespace Editor

open Text (StrayBefore)

theorem name_inj {first second : HighlightKind} (h : first.name = second.name) :
    first = second := by
  cases first <;> cases second <;> first | rfl | exact absurd h (by decide)

theorem exists_highlight_of_mem {editor : Editor} {columns : Columns} {tag : Tag}
    {kind : HighlightKind} (htag : tag ∈ (editor.rehighlight columns).buffer.tags)
    (hname : tag.name = kind.name) :
    ∃ highlight ∈ Highlight.ofContent editor.buffer.content, highlight.kind = kind ∧
      tag = highlightTag (editor.buffer.spread columns) highlight := by
  rcases List.mem_append.mp htag with hkept | hnew
  · have hother := (List.mem_filter.mp hkept).2
    rw [hname] at hother
    cases kind <;> exact absurd hother (by decide)
  · obtain ⟨highlight, hmem, rfl⟩ := List.mem_map.mp hnew
    exact ⟨highlight, hmem, name_inj hname, rfl⟩

section Range

variable {buffer : Buffer} {highlight : Highlight} {count : Nat}
  {front before lexeme later behind : List Char} (columns : Columns)

variable (hcontent : buffer.content = front ++ (before ++ (lexeme ++ later) ++ behind))
include hcontent

theorem content_spread_eq :
    (buffer.spread columns).content =
      columns.spread front ++ (columns.spread (before ++ (lexeme ++ later)) ++
        columns.spread behind) := by
  rw [Buffer.content_spread, hcontent, columns.spread_append, columns.spread_append]

variable (hpassed : Text.Passed count front (before ++ (lexeme ++ later) ++ behind))
  (hunbroken : Text.Unbroken (before ++ (lexeme ++ later)))
include hpassed hunbroken

theorem strayBefore_iff :
    StrayBefore (buffer.spread columns).content (columns.spread front).length ↔
      StrayBefore buffer.content (front ++ before).length := by
  have hbefore : Text.Unbroken before := fun c hc => hunbroken c (List.mem_append_left _ hc)
  rw [Buffer.content_spread, hcontent, hpassed.strayBefore_spread, List.length_append,
    List.append_assoc, Text.strayBefore_add hbefore]

variable (hstands : highlight.StandsAt buffer.content front before lexeme later)
include hstands

theorem range_of_not_strayBefore
    (hnone : ¬StrayBefore buffer.content (front ++ before).length) :
    (buffer.spread columns).range (highlightTag (buffer.spread columns) highlight) =
      ((columns.spread front).length + before.length,
        (columns.spread front).length + before.length + lexeme.length) := by
  rw [← strayBefore_iff columns hcontent hpassed hunbroken] at hnone
  have hspread := columns.length_le_length_spread (before ++ (lexeme ++ later))
  rw [List.length_append, List.length_append] at hspread
  have hlines := hpassed.spread columns
  rw [columns.spread_append] at hlines
  have hposition := @Buffer.position_of_not_strayBefore _ _ _ _ _
    (content_spread_eq columns hcontent) hlines (hunbroken.spread columns) hnone
  rw [Buffer.range_highlightTag, hstands.line_eq, hpassed.length_wideLines,
    hstands.standsIn.start_eq, hstands.standsIn.stop_eq, hposition (by omega),
    hposition (by omega), Nat.add_assoc]

/-- Behind a stray boundary, the tag begins further down. -/
theorem lt_range_of_strayBefore
    (hafter : StrayBefore buffer.content (front ++ before).length) :
    (columns.spread (front ++ before)).length <
      ((buffer.spread columns).range (highlightTag (buffer.spread columns) highlight)).1 := by
  rw [← strayBefore_iff columns hcontent hpassed hunbroken] at hafter
  have hpos := List.length_pos_iff.mpr hstands.standsIn.isLexeme.ne_nil
  have hlexeme := columns.length_le_length_spread lexeme
  have hinside : (columns.spread before).length <
      (columns.spread (before ++ (lexeme ++ later))).length := by
    rw [columns.spread_append, columns.spread_append, List.length_append, List.length_append]
    omega
  have hlines := hpassed.spread columns
  rw [columns.spread_append] at hlines
  rw [Buffer.range_highlightTag, hstands.line_eq, hpassed.length_wideLines, columns.spread_append,
    List.length_append]
  exact Buffer.lt_position_of_strayBefore (content_spread_eq columns hcontent) hlines
    (hunbroken.spread columns) hafter hinside _

end Range

/-- Every tag of a highlight belongs to a lexeme of its kind that was found in the text. It is on
the columns of this lexeme exactly if no stray boundary stands in front and no character of the line
up to the end of the lexeme takes two columns. Without a stray boundary it begins and ends as many
columns behind the start of the line as there are characters; with one, it begins behind the point
where the lexeme begins. -/
theorem highlight_range_iff (editor : Editor) (columns : Columns) {tag : Tag} {kind : HighlightKind}
    (htag : tag ∈ (editor.rehighlight columns).buffer.tags) (hname : tag.name = kind.name) :
    ∃ highlight front before lexeme later,
      highlight ∈ Highlight.ofContent editor.buffer.content ∧ highlight.kind = kind ∧
      highlight.StandsAt editor.buffer.content front before lexeme later ∧ kind.IsLexeme lexeme ∧
      let shown := editor.buffer.spread columns
      let line := (columns.spread front).length
      let first := (columns.spread (front ++ before)).length
      let last := (columns.spread (front ++ before ++ lexeme)).length
      let isStray := StrayBefore editor.buffer.content (front ++ before).length
      ((∀ position, shown.Covers tag position ↔ first ≤ position ∧ position < last) ↔
        ¬isStray ∧ ∀ c ∈ before ++ lexeme, columns.width c = 1) ∧
      (¬isStray → (∀ c ∈ before ++ lexeme, columns.width c = 1) → shown.tagged tag = lexeme) ∧
      (¬isStray → ∀ position, shown.Covers tag position ↔
        line + before.length ≤ position ∧ position < line + before.length + lexeme.length) ∧
      (isStray → ∀ position, shown.Covers tag position → first < position) := by
  obtain ⟨highlight, hmem, rfl, rfl⟩ := exists_highlight_of_mem htag hname
  obtain ⟨count, front, before, lexeme, later, behind, hcontent, hpassed, hunbroken, hstands⟩ :=
    Highlight.exists_standsAt hmem
  have hrange := range_of_not_strayBefore columns hcontent hpassed hunbroken hstands
  have hbehind := lt_range_of_strayBefore columns hcontent hpassed hunbroken hstands
  have hpos := List.length_pos_iff.mpr hstands.standsIn.isLexeme.ne_nil
  have hline := columns.length_le_length_spread (before ++ lexeme)
  have hlexeme := columns.length_le_length_spread lexeme
  have hfirst : (columns.spread (front ++ before)).length =
      (columns.spread front).length + (columns.spread before).length := by
    rw [columns.spread_append, List.length_append]
  have hlast : (columns.spread (front ++ before ++ lexeme)).length =
      (columns.spread front).length + (columns.spread (before ++ lexeme)).length := by
    rw [List.append_assoc, columns.spread_append, List.length_append]
  have hwhole : (columns.spread (before ++ lexeme)).length =
      (columns.spread before).length + (columns.spread lexeme).length := by
    rw [columns.spread_append, List.length_append]
  refine ⟨highlight, front, before, lexeme, later, hmem, rfl, hstands, hstands.standsIn.isLexeme,
    ⟨fun hcovers => ?_, fun ⟨hnone, hnarrow⟩ position => ?_⟩, fun hnone hnarrow => ?_,
    fun hnone position => ?_, fun hafter position hcovers => (hbehind hafter).trans_le hcovers.1⟩
  · have hnone : ¬StrayBefore editor.buffer.content (front ++ before).length := fun hafter => by
      have hcovered := (hcovers (columns.spread (front ++ before)).length).mpr (by omega)
      exact absurd hcovered.1 (Nat.not_le_of_lt (hbehind hafter))
    -- The last column of the lexeme is covered, so there are no more columns than characters.
    have hcovered := (hcovers ((columns.spread (front ++ before ++ lexeme)).length - 1)).mpr
      (by omega)
    rw [Buffer.Covers, hrange hnone] at hcovered
    refine ⟨hnone, (columns.length_spread_eq_iff _).mp ?_⟩
    rw [List.length_append] at hline ⊢
    omega
  · have hbefore := columns.spread_eq_self fun c hc => hnarrow c (List.mem_append_left _ hc)
    have hwide := columns.spread_eq_self hnarrow
    rw [hwide, List.length_append] at hlast
    rw [hbefore] at hfirst
    rw [Buffer.Covers, hrange hnone, hfirst, hlast, Nat.add_assoc]
  · have hshape : (editor.buffer.spread columns).content =
        (columns.spread front ++ before) ++ (lexeme ++ columns.spread (later ++ behind)) := by
      rw [content_spread_eq columns hcontent, ← List.append_assoc before, columns.spread_append,
        columns.spread_eq_self hnarrow]
      simp [columns.spread_append]
    rw [Buffer.tagged, hrange hnone, ← List.length_append, Buffer.slice_of_content hshape]
  · rw [Buffer.Covers, hrange hnone]

/-- An editor with a text in it. -/
def holding (text : String) : Editor := { theme := .light, buffer := { text := text.toList } }

/-- Neither a carriage return before a line feed nor a character of two columns in the line before
disturbs the tags. -/
theorem highlight_range_returned :
    let editor := holding "😀\r\n'#' 1"
    let tag : Tag := ⟨"string", ⟨2, 0⟩, ⟨2, 3⟩⟩
    tag ∈ (editor.rehighlight .units16).buffer.tags ∧
      ∃ highlight front before lexeme later,
        highlight ∈ Highlight.ofContent editor.buffer.content ∧ highlight.kind = .string ∧
        highlight.StandsAt editor.buffer.content front before lexeme later ∧
        HighlightKind.string.IsLexeme lexeme ∧
        let shown := editor.buffer.spread .units16
        let line := (Columns.units16.spread front).length
        let first := (Columns.units16.spread (front ++ before)).length
        let last := (Columns.units16.spread (front ++ before ++ lexeme)).length
        let isStray := StrayBefore editor.buffer.content (front ++ before).length
        ((∀ position, shown.Covers tag position ↔ first ≤ position ∧ position < last) ↔
          ¬isStray ∧ ∀ c ∈ before ++ lexeme, Columns.units16.width c = 1) ∧
        (¬isStray → (∀ c ∈ before ++ lexeme, Columns.units16.width c = 1) →
          shown.tagged tag = lexeme) ∧
        (¬isStray → ∀ position, shown.Covers tag position ↔
          line + before.length ≤ position ∧ position < line + before.length + lexeme.length) ∧
        (isStray → ∀ position, shown.Covers tag position → first < position) := by
  intro editor tag
  have htag : tag ∈ (editor.rehighlight .units16).buffer.tags := by decide +kernel
  exact ⟨htag, highlight_range_iff editor .units16 htag rfl⟩

/-- Behind a form feed, the tag of the text in quotes is on a keyword, however columns are
counted. -/
theorem highlight_range_formFeed :
    let editor := holding "\x0c\"s\"\nsay 1"
    let tag : Tag := ⟨"string", ⟨2, 0⟩, ⟨2, 3⟩⟩
    let isOnKeyword (columns : Columns) :=
      tag ∈ (editor.rehighlight columns).buffer.tags ∧
        (editor.buffer.spread columns).tagged tag = "say".toList
    isOnKeyword .points ∧ isOnKeyword .units16 ∧ ¬HighlightKind.string.IsLexeme "say".toList := by
  refine ⟨⟨by decide +kernel, by decide +kernel⟩, ⟨by decide +kernel, by decide +kernel⟩, ?_⟩
  rintro ⟨quote, inner, rfl | rfl, -, hsame⟩ <;> cases hsame

-- Where a character takes two columns, the tag of the text in quotes loses its last quote.
example :
    let editor := holding "😀'a' 1"
    ((editor.rehighlight .units16).buffer.tags.filter (·.name == "string")).map
        (editor.buffer.spread .units16).tagged = ["😀'a".toList] := by
  decide +kernel

end Editor

end ScriptStudio
