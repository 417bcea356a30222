import ScriptStudio.Proofs.HighlightMarks
import ScriptStudio.Proofs.HighlightPlaces
import ScriptStudio.Proofs.MistakePlaces

/-!
# Highlighted strings and comments

In a text of one line, highlighting and scanning are compared on texts in quotes and on comments.
They part at an escaped quote, and at a line boundary that is no line feed.

* `Highlight.exists_of_line_eq_one`: a highlight of the first line covers its lexeme.
* `SkipsComment`: the comment that a scan skips.
* `mem_verbatim_iff`: what is highlighted where nothing is escaped and nothing is broken.
* `Editor.strings_and_comments_iff`: when highlighting and scanning agree.
-/

namespace ScriptStudio

open Highlight (Marked)

/-! ## Highlights in the first line -/

open Text (Unbroken)

/-- A highlight of the first line covers its lexeme. -/
theorem Highlight.exists_of_line_eq_one {content : List Char} {highlight : Highlight}
    (h : highlight ∈ ofContent content) (hline : highlight.line = 1) :
    ∃ before lexeme rest, content = before ++ (lexeme ++ rest) ∧ before.length = highlight.start ∧
      before.length + lexeme.length = highlight.stop ∧ Unbroken (before ++ lexeme) ∧
      highlight.kind.IsLexeme lexeme := by
  obtain ⟨count, front, before, lexeme, later, behind, hcontent, hpassed, hunbroken, hstands⟩ :=
    exists_standsAt h
  have hcount := hstands.line_eq
  rw [hline, hpassed.length_wideLines] at hcount
  obtain rfl : count = 0 := by omega
  cases hpassed
  refine ⟨before, lexeme, later ++ behind, by simp [hcontent], hstands.standsIn.start_eq.symm,
    hstands.standsIn.stop_eq.symm, fun c hc => hunbroken c ?_, hstands.standsIn.isLexeme⟩
  rw [← List.append_assoc]
  exact List.mem_append_left _ hc

/-- The first line of a text in the wide sense. -/
theorem Text.exists_first_line (source : List Char) :
    ∃ line tail later, source = line ++ tail ∧ Unbroken line ∧
      (∀ c ∈ tail.head?, isLineBoundary c = true) ∧ later <:+ tail ++ ['\n'] ∧
      wideLines (source ++ ['\n']) = line :: wideLines later := by
  rcases unbroken_or_exists_line (source ++ ['\n']) with
    hnone | ⟨line, ending, later, heq, hline, hending⟩
  · exact absurd (hnone '\n' (List.mem_append_right _ List.mem_cons_self)) (by decide)
  · obtain ⟨tail, rfl⟩ : line <+: source := by
      refine List.prefix_of_prefix_length_le ⟨_, heq.symm⟩ (List.prefix_append _ ['\n']) ?_
      have hlength := congrArg List.length heq
      simp only [List.length_append, List.length_singleton] at hlength
      cases hending with
      | pair | single => simp only [List.length_cons] at hlength; omega
    rw [List.append_assoc] at heq
    have htail := List.append_cancel_left heq
    refine ⟨line, tail, later, rfl, hline, fun c hc => ?_, htail ▸ List.suffix_append _ _, ?_⟩
    · have hhead : (ending ++ later).head? = some c := by
        rw [← htail, List.head?_append, hc]
        rfl
      cases hending with
      | pair =>
        cases hhead
        rfl
      | single hboundary =>
        cases hhead
        exact hboundary
    · rw [List.append_assoc, heq, wideLines_cons hline hending]

theorem Highlight.Marked.append_newline {number column : Nat} {text : List Char}
    (h : Marked number column text []) : Marked number column (text ++ ['\n']) [] := by
  generalize hfound : ([] : List Highlight) = found at h ⊢
  induction h with
  | none => exact .plain rfl .none
  | plain hc _ ih => exact .plain hc (ih hfound)
  | comment | string => cases hfound
  | @unclosed _ quote rest _ hquote hnone _ ih =>
    have hlast : quote ∉ rest ++ ['\n'] := by
      rw [List.mem_append, List.mem_singleton, not_or]
      exact ⟨hnone, by rcases hquote with rfl | rfl <;> decide⟩
    exact .unclosed hquote hlast (ih hfound)

theorem Highlight.not_isVerbatim_of_mem {number column start : Nat} {tail later : List Char}
    (hmarked : Marked number column tail []) (hlater : later <:+ tail ++ ['\n'])
    {highlight : Highlight} (h : highlight ∈ ofLines start (Text.wideLines later)) :
    highlight.isVerbatim = false := by
  obtain ⟨count, line, hline, hmem⟩ := mem_ofLines h
  obtain ⟨-, before, lexeme, after, rfl, hstands⟩ := exists_standsIn hmem
  obtain ⟨front, behind, rfl, -, -⟩ := Text.exists_passed hline
  obtain ⟨above, habove⟩ := hlater
  obtain ⟨hcomment, hstring⟩ := hmarked.append_newline.not_verbatim
  have hlexeme := hstands.isLexeme
  rw [← habove] at hcomment hstring
  cases hkind : highlight.kind with
  | comment =>
    rw [hkind] at hlexeme
    obtain ⟨text, rfl⟩ := hlexeme
    exact absurd (by simp) hcomment
  | string =>
    rw [hkind] at hlexeme
    obtain ⟨quote, inner, hquote, -, rfl⟩ := hlexeme
    have hnone := hstring quote hquote (above ++ (front ++ before)) inner (after ++ behind)
    exact absurd (by simp) hnone
  | number | boolean | logical | input | keyword | operator | delimiter =>
    rw [isVerbatim, hkind]
    rfl

/-! ## Agreement -/

/-- A scan of the line skips a comment that begins behind so many characters: in front of it, the
line is laid out as tokens. -/
def SkipsComment (source : List Char) (start : Nat) : Prop :=
  ∃ tokens front comment, source = front ++ '#' :: comment ∧
    Laid [] tokens front ('#' :: comment) ∧ front.length = start

/-- The stretch of a comment, which goes on up to the end of the line. -/
def commentStretch (source : List Char) (start : Nat) : Highlight :=
  ⟨.comment, 1, start, source.length⟩

section OneLine

variable {source : List Char} {start : Nat}

/-- The tokens in front of a comment are all that there are. -/
theorem tokens_of_comment {tokens : List Token} {front comment : List Char}
    (hline : '\n' ∉ front ++ '#' :: comment) (hlaid : Laid [] tokens front ('#' :: comment)) :
    (scan Place.start (front ++ '#' :: comment)).tokens = tokens := by
  have hcomment : '\n' ∉ comment := fun hmem =>
    hline (List.mem_append_right _ (List.mem_cons_of_mem _ hmem))
  have hgap : Gap ('#' :: comment) [] := .comment hcomment (by simp [AtLineEnd])
  have hscan := hlaid.scan_eq
  have hnone := scan_gap hgap front
  rw [List.append_nil] at hnone
  rw [Place.endOf_nil, List.nil_append, hnone] at hscan
  rw [hscan, scan]
  exact List.append_nil tokens

/-- A comment that is skipped is the last of the marks. -/
theorem SkipsComment.marked (h : SkipsComment source start) (hline : '\n' ∉ source)
    (hfree : ∀ token ∈ (scan Place.start source).tokens, token.kind = .string →
      OwnQuoteFree token.text.toList) :
    Marked 1 0 source
      (stretches (scan Place.start source).tokens ++ [commentStretch source start]) := by
  obtain ⟨tokens, front, comment, rfl, hlaid, rfl⟩ := h
  rw [tokens_of_comment hline hlaid] at hfree ⊢
  obtain ⟨front', comment', rfl, -, hcomment, hmarked⟩ :=
    hlaid.marked (fun hmem => hline (List.mem_append_left _ hmem)) (.inr rfl) hfree
  obtain rfl : comment' = [] := hcomment.resolve_right fun hnone => by cases hnone.2
  have hlength : (front' ++ '#' :: comment).length = front'.length + (comment.length + 1) := by
    rw [List.length_append, List.length_cons]
  have hfound := hmarked
    [⟨.comment, 1, 0 + front'.length, 0 + front'.length + (comment.length + 1)⟩] .comment
  rw [List.append_nil, commentStretch, hlength]
  simpa only [List.append_nil, List.length_nil, Nat.zero_add] using hfound

theorem exists_marked (hline : '\n' ∉ source) (hrest : (scan Place.start source).rest = [])
    (hfree : ∀ token ∈ (scan Place.start source).tokens, token.kind = .string →
      OwnQuoteFree token.text.toList) :
    ∃ comments, Marked 1 0 source (stretches (scan Place.start source).tokens ++ comments) ∧
      ∀ highlight, highlight ∈ comments ↔
        ∃ start, SkipsComment source start ∧ highlight = commentStretch source start := by
  obtain ⟨front, comment, hsource, hlaid, hcomment, hmarked⟩ :=
    (scan_laid_whole hrest).1.marked hline (.inl rfl) hfree
  rw [List.append_nil] at hlaid hmarked
  have hskipped : ∀ comments start,
      Marked 1 0 source (stretches (scan Place.start source).tokens ++ comments) →
      SkipsComment source start → comments = [commentStretch source start] := by
    intro comments start hfound hskips
    exact List.append_cancel_left (hfound.unique (hskips.marked hline hfree))
  rcases hcomment with rfl | ⟨hhead, -⟩
  · have hfound := hmarked [] .none
    rw [List.append_nil] at hfound
    refine ⟨[], hfound, fun highlight => ⟨fun h => absurd h List.not_mem_nil, ?_⟩⟩
    rintro ⟨start, hskips, -⟩
    cases hskipped [] start hfound hskips
  · obtain ⟨text, rfl⟩ := List.head?_eq_some_iff.mp hhead
    have hskips : SkipsComment source front.length := ⟨_, front, text, hsource, hlaid, rfl⟩
    refine ⟨[commentStretch source front.length], hskips.marked hline hfree, fun highlight => ?_⟩
    rw [List.mem_singleton]
    refine ⟨fun h => ⟨_, hskips, h⟩, ?_⟩
    rintro ⟨start, hskips', rfl⟩
    exact (List.cons.inj (hskipped _ start (hskips.marked hline hfree) hskips')).1.symm

theorem mem_stretches {tokens : List Token} {highlight : Highlight} :
    highlight ∈ stretches tokens ↔
      ∃ token ∈ tokens, token.kind = .string ∧ highlight = token.stretch := by
  rw [stretches, List.mem_map]
  refine exists_congr fun token => ?_
  rw [List.mem_filter, beq_iff_eq, and_assoc, eq_comm (a := highlight)]

/-- A stretch in one line, by the text in front of it. -/
theorem exists_stretch_eq (hline : '\n' ∉ source) (hrest : (scan Place.start source).rest = [])
    {token : Token} (htoken : token ∈ (scan Place.start source).tokens) :
    ∃ front behind, source = front ++ (token.text.toList ++ behind) ∧
      token.stretch = ⟨.string, 1, front.length, front.length + token.text.toList.length⟩ := by
  obtain ⟨earlier, others, htokens⟩ := List.append_of_mem htoken
  have hlaid := (scan_laid_whole hrest).1
  rw [htokens] at hlaid
  obtain ⟨front, behind, hsource, hplace, -⟩ := hlaid.cut
  refine ⟨front, behind, hsource, ?_⟩
  have hfront : '\n' ∉ front := fun hmem => hline (hsource ▸ List.mem_append_left _ hmem)
  rw [List.nil_append, Place.endOf_of_not_mem hfront] at hplace
  rw [Token.stretch, hplace, Nat.add_sub_cancel_left]

theorem mem_ofContent_iff {found : List Highlight} (hmarked : Marked 1 0 source found)
    (hunbroken : ∀ highlight ∈ found, Unbroken (source.take highlight.stop) ∧
      highlight.stop ≤ source.length) (highlight : Highlight) :
    highlight ∈ Highlight.ofContent (source ++ ['\n']) ∧ highlight.isVerbatim = true ↔
      highlight ∈ found := by
  obtain ⟨line, tail, later, rfl, hline, hboundary, hlater, hlines⟩ := Text.exists_first_line source
  have hstop : ∀ highlight ∈ found, highlight.stop ≤ 0 + line.length := by
    intro highlight hmem
    obtain ⟨htake, hle⟩ := hunbroken highlight hmem
    by_contra hlt
    obtain ⟨more, hmore⟩ := Nat.exists_eq_add_of_lt (Nat.lt_of_not_le hlt)
    rw [Nat.zero_add] at hmore
    cases tail with
    | nil =>
      rw [List.append_nil] at hle
      omega
    | cons c tail =>
      have hc : c ∈ (line ++ c :: tail).take highlight.stop := by
        rw [hmore, Nat.add_assoc, List.take_length_add_append, List.take_succ_cons]
        exact List.mem_append_right _ List.mem_cons_self
      have hnone := htake c hc
      rw [hboundary c rfl] at hnone
      cases hnone
  obtain ⟨hfront, hbehind⟩ := hmarked.cut hstop
  have hfirst := (Highlight.marked_ofLine 1 line).unique hfront
  rw [Highlight.ofContent, hlines, Highlight.ofLines, List.mem_append, ← hfirst, List.mem_filter]
  constructor
  · rintro ⟨hmem | hmem, hverbatim⟩
    · exact ⟨hmem, hverbatim⟩
    · rw [Highlight.not_isVerbatim_of_mem hbehind hlater hmem] at hverbatim
      cases hverbatim
  · rintro ⟨hmem, hverbatim⟩
    exact ⟨.inl hmem, hverbatim⟩

/-- What is highlighted where no text in quotes has a quote of its own kind inside and all of them
and the comment are in the first line. -/
theorem mem_verbatim_iff (hline : '\n' ∉ source) (hrest : (scan Place.start source).rest = [])
    (hstrings : ∀ token ∈ (scan Place.start source).tokens, token.kind = .string →
      OwnQuoteFree token.text.toList ∧ Unbroken (source.take token.stretch.stop))
    (hcomments : (∃ start, SkipsComment source start) → Unbroken source) (highlight : Highlight) :
    highlight ∈ Highlight.ofContent (source ++ ['\n']) ∧ highlight.isVerbatim = true ↔
      (∃ token ∈ (scan Place.start source).tokens, token.kind = .string ∧
        highlight = token.stretch) ∨
      ∃ start, SkipsComment source start ∧ highlight = commentStretch source start := by
  obtain ⟨comments, hmarked, hcomment⟩ :=
    exists_marked hline hrest fun token htoken hkind => (hstrings token htoken hkind).1
  rw [mem_ofContent_iff hmarked, List.mem_append, mem_stretches, hcomment]
  intro highlight hhighlight
  rcases List.mem_append.mp hhighlight with hstring | hlast
  · obtain ⟨token, htoken, hkind, rfl⟩ := mem_stretches.mp hstring
    refine ⟨(hstrings token htoken hkind).2, ?_⟩
    obtain ⟨front, behind, hwhole, hstretch⟩ := exists_stretch_eq hline hrest htoken
    rw [hstretch, hwhole]
    simp only [List.length_append]
    omega
  · obtain ⟨start, hskips, rfl⟩ := (hcomment highlight).mp hlast
    refine ⟨?_, le_rfl⟩
    rw [commentStretch, List.take_length]
    exact hcomments ⟨start, hskips⟩

theorem covers_of_mem (hline : '\n' ∉ source) (hrest : (scan Place.start source).rest = [])
    {token : Token} (htoken : token ∈ (scan Place.start source).tokens)
    (h : token.stretch ∈ Highlight.ofContent (source ++ ['\n'])) :
    OwnQuoteFree token.text.toList ∧ Unbroken (source.take token.stretch.stop) := by
  obtain ⟨front, behind, hsource, hstretch⟩ := exists_stretch_eq hline hrest htoken
  obtain ⟨before, lexeme, rest, hcontent, hstart, hstop, hunbroken, hlexeme⟩ :=
    Highlight.exists_of_line_eq_one h (by rw [hstretch])
  rw [hstretch] at hstart hstop hlexeme ⊢
  dsimp only at hstart hstop hlexeme ⊢
  have hwhole : front ++ (token.text.toList ++ (behind ++ ['\n'])) =
      before ++ (lexeme ++ rest) := by
    rw [← hcontent, hsource]
    simp only [List.append_assoc]
  obtain ⟨rfl, hlater⟩ := List.append_inj hwhole hstart.symm
  obtain ⟨rfl, -⟩ := List.append_inj hlater (by omega)
  refine ⟨?_, ?_⟩
  · obtain ⟨quote, inner, -, hinner, htext⟩ := hlexeme
    rw [htext, ownQuoteFree_iff]
    exact hinner
  · rw [hsource, List.take_length_add_append, List.take_left]
    exact hunbroken

theorem unbroken_of_mem (h : commentStretch source start ∈ Highlight.ofContent (source ++ ['\n'])) :
    Unbroken source := by
  obtain ⟨before, lexeme, rest, hcontent, -, hstop, hunbroken, -⟩ :=
    Highlight.exists_of_line_eq_one h rfl
  rw [← List.append_assoc] at hcontent
  have hlength : source.length = (before ++ lexeme).length := by
    rw [List.length_append]
    exact hstop.symm
  rw [(List.append_inj hcontent hlength).1]
  exact hunbroken

end OneLine

namespace Editor

/-- The highlights of texts in quotes are on the tokens that are texts in quotes, and on nothing
else. -/
def HighlightsStrings (editor : Editor) (tokens : List Token) : Prop :=
  ∀ highlight, highlight ∈ Highlight.ofContent editor.buffer.content ∧ highlight.kind = .string ↔
    ∃ token ∈ tokens, token.kind = .string ∧ highlight = token.stretch

/-- The highlights of comments are on the comment that a scan skips, and on nothing else. -/
def HighlightsComments (editor : Editor) : Prop :=
  ∀ highlight, highlight ∈ Highlight.ofContent editor.buffer.content ∧ highlight.kind = .comment ↔
    ∃ start, SkipsComment editor.buffer.text start ∧
      highlight = commentStretch editor.buffer.text start

/-- In a text of one line that can be scanned, highlighting agrees with the scan on texts in quotes
and on comments exactly if no text in quotes has a quote of its own kind inside, and no text in
quotes and no comment stands behind a line boundary or has one in it. -/
theorem strings_and_comments_iff (editor : Editor) (hline : '\n' ∉ editor.buffer.text)
    {tokens : List Token} (htokens : tokenize editor.text = .ok tokens) :
    editor.HighlightsStrings tokens ∧ editor.HighlightsComments ↔
      (∀ token ∈ tokens, token.kind = .string → OwnQuoteFree token.text.toList ∧
        Unbroken (editor.buffer.text.take token.stretch.stop)) ∧
      ((∃ start, SkipsComment editor.buffer.text start) → Unbroken editor.buffer.text) := by
  have hsource : editor.text.toList = editor.buffer.text := String.toList_ofList
  obtain ⟨hrest, hbody⟩ := Scan.result_eq_ok_iff.mp htokens
  rw [hsource] at hrest hbody
  have hmem : ∀ token, token.kind = .string →
      (token ∈ tokens ↔ token ∈ (scan Place.start editor.buffer.text).tokens) := by
    intro token hkind
    rw [hbody, List.mem_append, List.mem_singleton, or_iff_left]
    rintro rfl
    cases hkind
  constructor
  · rintro ⟨hstrings, hcomments⟩
    refine ⟨fun token htoken hkind => ?_, fun ⟨start, hskips⟩ => ?_⟩
    · exact covers_of_mem hline hrest ((hmem token hkind).mp htoken)
        ((hstrings _).mpr ⟨token, htoken, hkind, rfl⟩).1
    · exact unbroken_of_mem ((hcomments _).mpr ⟨start, hskips, rfl⟩).1
  · rintro ⟨hstrings, hcomments⟩
    have hfound := mem_verbatim_iff hline hrest
      (fun token htoken hkind => hstrings token ((hmem token hkind).mpr htoken) hkind) hcomments
    have hstretch : ∀ highlight, (∃ token ∈ (scan Place.start editor.buffer.text).tokens,
        token.kind = .string ∧ highlight = token.stretch) ↔
          ∃ token ∈ tokens, token.kind = .string ∧ highlight = token.stretch := fun _ =>
      exists_congr fun token => and_congr_left fun h => (hmem token h.1).symm
    simp only [hstretch] at hfound
    refine ⟨fun highlight => ⟨fun ⟨hcontent, hkind⟩ => ?_, fun hstring => ?_⟩,
      fun highlight => ⟨fun ⟨hcontent, hkind⟩ => ?_, fun hcomment => ?_⟩⟩
    · have hverbatim : highlight.isVerbatim = true := by simp [Highlight.isVerbatim, hkind]
      refine ((hfound highlight).mp ⟨hcontent, hverbatim⟩).resolve_right ?_
      rintro ⟨start, -, rfl⟩
      cases hkind
    · refine ⟨((hfound highlight).mpr (.inl hstring)).1, ?_⟩
      obtain ⟨token, -, -, rfl⟩ := hstring
      rfl
    · have hverbatim : highlight.isVerbatim = true := by simp [Highlight.isVerbatim, hkind]
      refine ((hfound highlight).mp ⟨hcontent, hverbatim⟩).resolve_left ?_
      rintro ⟨token, -, -, rfl⟩
      cases hkind
    · refine ⟨((hfound highlight).mpr (.inr hcomment)).1, ?_⟩
      obtain ⟨start, -, rfl⟩ := hcomment
      rfl

/-- The other quote and the sign of a comment in a text in quotes, and a quote in a comment. -/
theorem strings_and_comments_mixed :
    ∃ tokens, tokenize (holding "say \"it's #1\" # \"").text = .ok tokens ∧
      ((holding "say \"it's #1\" # \"").HighlightsStrings tokens ∧
          (holding "say \"it's #1\" # \"").HighlightsComments ↔
        (∀ token ∈ tokens, token.kind = .string → OwnQuoteFree token.text.toList ∧
          Unbroken ((holding "say \"it's #1\" # \"").buffer.text.take token.stretch.stop)) ∧
        ((∃ start, SkipsComment (holding "say \"it's #1\" # \"").buffer.text start) →
          Unbroken (holding "say \"it's #1\" # \"").buffer.text)) := by
  have htokens : tokenize (holding "say \"it's #1\" # \"").text =
      .ok [⟨.sayKw, "say", ⟨1, 1⟩⟩, ⟨.string, "\"it's #1\"", ⟨1, 5⟩⟩,
        ⟨.endOfFile, "", ⟨1, 18⟩⟩] := by
    cbv
  have hline : '\n' ∉ (holding "say \"it's #1\" # \"").buffer.text := by
    decide +kernel
  exact ⟨_, htokens, strings_and_comments_iff _ hline htokens⟩

/-- A quote behind a backslash goes on for the scan, and ends the highlight. -/
theorem not_highlightsStrings_escaped :
    ∃ tokens, tokenize (holding "say \"a\\\"b\"").text = .ok tokens ∧
      ¬(holding "say \"a\\\"b\"").HighlightsStrings tokens := by
  have htokens : tokenize (holding "say \"a\\\"b\"").text =
      .ok [⟨.sayKw, "say", ⟨1, 1⟩⟩, ⟨.string, "\"a\\\"b\"", ⟨1, 5⟩⟩,
        ⟨.endOfFile, "", ⟨1, 11⟩⟩] := by
    cbv
  have hnone : Token.stretch ⟨.string, "\"a\\\"b\"", ⟨1, 5⟩⟩ ∉
      Highlight.ofContent (holding "say \"a\\\"b\"").buffer.content := by
    decide +kernel
  refine ⟨_, htokens, fun h => hnone ((h _).mpr ⟨_, ?_, rfl, rfl⟩).1⟩
  simp

end Editor

end ScriptStudio
