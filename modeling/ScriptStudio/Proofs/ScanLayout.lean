import Mathlib.Data.List.TakeWhile
import ScriptStudio.Token.Scan

/-!
# The layout of a text

Scanning loses nothing. The lexemes of the tokens, with the gaps between them, are the text itself,
and every place is where its lexeme stands.

* `Place.endOf`: a place read off the text in front of it, by counting.
* `Gap`, `Leads`: what may stand between two lexemes, and what a lexeme is.
* `Laid`: a text as an alternation of gaps and lexemes, each lexeme at its place.
* `scan_laid`: the text that a scan has gone through is laid out as its tokens say, and the scan
  ends at the end of the text or where no pattern matches.
-/

namespace ScriptStudio

/-! ## Places by counting -/

/-- The place at the end of a text. Its line is one more than the line ends in the text, and its
column is one more than the characters after the last of them. -/
def Place.endOf (text : List Char) : Place :=
  ⟨1 + text.count '\n', 1 + (text.reverse.takeWhile (· ≠ '\n')).length⟩

theorem Place.endOf_nil : Place.endOf [] = Place.start := rfl

theorem Place.next_endOf (text : List Char) (c : Char) :
    (Place.endOf text).next c = Place.endOf (text ++ [c]) := by
  unfold Place.next Place.endOf
  by_cases hc : c = '\n'
  · subst hc
    simp [Nat.add_assoc]
  · have hcount : [c].count '\n' = 0 := List.count_eq_zero.mpr (by simpa using Ne.symm hc)
    rw [if_neg hc, List.count_append, hcount, List.reverse_append, List.reverse_singleton,
      List.singleton_append, List.takeWhile_cons_of_pos (by simpa using hc)]
    simp only [List.length_cons, Place.mk.injEq]
    omega

theorem Place.advance_endOf (before text : List Char) :
    (Place.endOf before).advance text = Place.endOf (before ++ text) := by
  induction text generalizing before with
  | nil => rw [List.append_nil]; rfl
  | cons c text ih =>
    have hnext : (Place.endOf before).advance (c :: text) =
        (Place.endOf (before ++ [c])).advance text := by
      rw [← Place.next_endOf]
      rfl
    rw [hnext, ih, List.append_assoc, List.singleton_append]

/-! ## Gaps and lexemes -/

/-- The text is at its end or at the end of a line. -/
def AtLineEnd (text : List Char) : Prop := ∀ c ∈ text.head?, c = '\n'

/-- What may stand in front of a text without being a lexeme: blanks, and after them perhaps a
comment, which goes on up to the end of the line. -/
inductive Gap : (gap later : List Char) → Prop
  | none {later : List Char} : Gap [] later
  | blank {c : Char} {gap later : List Char} (hc : c = ' ' ∨ c = '\t' ∨ c = '\r')
    (hgap : Gap gap later) : Gap (c :: gap) later
  | comment {text later : List Char} (htext : '\n' ∉ text) (hlater : AtLineEnd later) :
    Gap ('#' :: text) later

theorem eq_or_of_isGap {c : Char} (h : isGap c = true) : c = ' ' ∨ c = '\t' ∨ c = '\r' := by
  simpa [isGap, or_assoc] using h

/-- There is no gap at the end of a line. -/
theorem Gap.eq_nil {gap later : List Char} (h : Gap gap later) (hend : AtLineEnd (gap ++ later)) :
    gap = [] := by
  cases h with
  | none => rfl
  | blank hc hgap =>
    have hline := hend _ rfl
    subst hline
    simp at hc
  | comment htext hlater =>
    have hline := hend _ rfl
    simp at hline

/-- A lexeme of a kind stands at the front of a text: it is what the first pattern that matches
there takes, and the pattern is of this kind. -/
def Leads (kind : TokenKind) (lexeme text : List Char) : Prop :=
  ∃ c rest length, text = c :: rest ∧ lexeme? c rest = some (kind, length) ∧
    lexeme = c :: rest.take length

/-- With this character and what follows it there begins neither a gap nor a lexeme. -/
structure Unmatched (c : Char) (later : List Char) : Prop where
  not_gap : ∀ gap rest, c :: later = gap ++ rest → Gap gap rest → gap = []
  not_lexeme : ∀ pattern ∈ patterns, pattern.tail? c later = none

/-! ## Layouts -/

/-- After the text `before` and in front of `rest`, a text is gaps and lexemes in turn, with a gap
at either end. The lexemes are those of the tokens, in order, and each token carries the place where
its lexeme begins. -/
inductive Laid : (before : List Char) → List Token → (text rest : List Char) → Prop
  | gap {before gap rest : List Char} (hgap : Gap gap rest) : Laid before [] gap rest
  | token {before gap text rest : List Char} {token : Token} {tokens : List Token}
    (hgap : Gap gap (token.text.toList ++ (text ++ rest)))
    (hplace : token.place = Place.endOf (before ++ gap))
    (hleads : Leads token.kind token.text.toList (token.text.toList ++ (text ++ rest)))
    (hlater : Laid (before ++ (gap ++ token.text.toList)) tokens text rest) :
    Laid before (token :: tokens) (gap ++ (token.text.toList ++ text)) rest

namespace Laid

variable {before text rest : List Char} {tokens : List Token}

/-- A blank joins the first gap. -/
theorem blank {c : Char} (hc : c = ' ' ∨ c = '\t' ∨ c = '\r')
    (h : Laid (before ++ [c]) tokens text rest) : Laid before tokens (c :: text) rest := by
  cases h with
  | gap hgap => exact .gap (.blank hc hgap)
  | token hgap hplace hleads hlater =>
    rw [List.append_assoc, List.singleton_append] at hplace hlater
    exact .token (.blank hc hgap) hplace hleads hlater

/-- A comment is the first gap, since its line ends after it. -/
theorem comment {comment : List Char} (hcomment : '\n' ∉ comment)
    (hend : AtLineEnd (text ++ rest)) (h : Laid (before ++ '#' :: comment) tokens text rest) :
    Laid before tokens ('#' :: comment ++ text) rest := by
  cases h with
  | gap hgap =>
    obtain rfl := hgap.eq_nil hend
    rw [List.append_nil]
    exact .gap (.comment hcomment hend)
  | token hgap hplace hleads hlater =>
    rw [List.append_assoc, List.append_assoc] at hend
    obtain rfl := hgap.eq_nil hend
    rw [List.append_nil] at hplace
    rw [List.nil_append, List.append_assoc] at hlater
    exact .token (.comment hcomment hend) hplace hleads hlater

theorem lexeme {kind : TokenKind} {lexeme : List Char}
    (hleads : Leads kind lexeme (lexeme ++ (text ++ rest)))
    (h : Laid (before ++ lexeme) tokens text rest) :
    Laid before (⟨kind, String.ofList lexeme, Place.endOf before⟩ :: tokens) (lexeme ++ text)
      rest := by
  have hlexeme : (String.ofList lexeme).toList = lexeme := String.toList_ofList
  generalize String.ofList lexeme = word at hlexeme
  subst hlexeme
  have hplace : Place.endOf before = Place.endOf (before ++ []) := by rw [List.append_nil]
  exact .token .none hplace hleads h

end Laid

/-- The rest of a line is followed by its end. -/
theorem atLineEnd_dropWhile (text : List Char) : AtLineEnd (text.dropWhile (· ≠ '\n')) := by
  intro c hc
  have hstop := List.head?_dropWhile_not (fun c : Char => decide (c ≠ '\n')) text
  rw [hc] at hstop
  simpa using hstop

/-! ## Scans -/

theorem unmatched_of_scan {c : Char} {later : List Char} (hgap : ¬isGap c = true)
    (hcomment : c ≠ '#') (hnone : lexeme? c later = none) : Unmatched c later where
  not_gap := by
    intro gap rest htext h
    cases h with
    | none => rfl
    | blank hc _ =>
      obtain ⟨rfl, -⟩ := List.cons.inj htext
      refine absurd ?_ hgap
      rcases hc with rfl | rfl | rfl <;> rfl
    | comment _ _ => exact absurd (List.cons.inj htext).1 hcomment
  not_lexeme := by
    intro pattern hpattern
    have hmissed := List.findSome?_eq_none_iff.mp hnone pattern hpattern
    simpa using hmissed

/-- A scan goes through a text that is laid out as its tokens say. It ends at the place where that
text ends, which is the end of the whole text or a point where nothing matches. -/
theorem scan_laid (before source : List Char) :
    let found := scan (Place.endOf before) source
    ∃ text, source = text ++ found.rest ∧ Laid before found.tokens text found.rest ∧
      found.place = Place.endOf (before ++ text) ∧
      ∀ c later, found.rest = c :: later → Unmatched c later := by
  generalize hplace : Place.endOf before = place
  fun_induction scan place source generalizing before with
  | case1 place =>
    refine ⟨[], rfl, .gap .none, ?_, ?_⟩
    · rw [List.append_nil, hplace]
    · intro c later hrest
      cases hrest
  | case2 place c rest hgap ih =>
    obtain ⟨text, htext, hlaid, hend, hstuck⟩ := ih (before ++ [c])
      (by rw [← Place.next_endOf, hplace])
    refine ⟨c :: text, ?_, hlaid.blank (eq_or_of_isGap hgap), ?_, hstuck⟩
    · rw [List.cons_append, ← htext]
    · rw [hend, List.append_assoc, List.singleton_append]
  | case3 place rest hgap ih =>
    obtain ⟨text, htext, hlaid, hend, hstuck⟩ := ih (before ++ '#' :: rest.takeWhile (· ≠ '\n'))
      (by rw [← Place.advance_endOf, hplace]; rfl)
    have hcomment : '\n' ∉ rest.takeWhile (· ≠ '\n') := by
      intro hmem
      simpa using List.mem_takeWhile_imp hmem
    have hline := atLineEnd_dropWhile rest
    rw [htext] at hline
    refine ⟨'#' :: rest.takeWhile (· ≠ '\n') ++ text, ?_, hlaid.comment hcomment hline, ?_, hstuck⟩
    · rw [List.append_assoc, ← htext, List.cons_append, List.takeWhile_append_dropWhile]
    · rw [hend, List.append_assoc]
  | case4 place c rest hgap hcomment hnone =>
    refine ⟨[], rfl, .gap .none, ?_, ?_⟩
    · rw [List.append_nil, hplace]
    · rintro _ _ ⟨⟩
      exact unmatched_of_scan hgap hcomment hnone
  | case5 place c rest hgap hcomment kind length hsome lexeme later ih =>
    obtain ⟨text, htext, hlaid, hend, hstuck⟩ := ih (before ++ lexeme)
      (by rw [← Place.advance_endOf, hplace])
    have hsource : lexeme ++ (text ++ later.rest) = c :: rest := by
      rw [← htext, List.cons_append, List.take_append_drop]
    refine ⟨lexeme ++ text, ?_, ?_, ?_, hstuck⟩
    · rw [List.append_assoc, hsource]
    · subst hplace
      exact hlaid.lexeme ⟨c, rest, length, hsource, hsome, rfl⟩
    · rw [hend, List.append_assoc]

theorem scan_laid_whole {source : List Char} (h : (scan Place.start source).rest = []) :
    Laid [] (scan Place.start source).tokens source [] ∧
      (scan Place.start source).place = Place.endOf source := by
  obtain ⟨text, hsource, hlaid, hend, -⟩ := scan_laid [] source
  rw [Place.endOf_nil] at hsource hlaid hend
  rw [h, List.append_nil] at hsource
  rw [h] at hlaid
  subst hsource
  exact ⟨hlaid, hend⟩

/-- Scanning is lossless, and its places are exact. A source that is scanned to its end is gaps and
the lexemes of its tokens in turn, each token at the place where its lexeme begins, and the
end-of-file token stands at the end. A source that is refused is laid out in the same way by the
tokens found so far, up to the first point after a gap where no pattern matches; the error names
the character there and its place. -/
theorem tokenize_laid (source : String) :
    (∀ tokens, tokenize source = .ok tokens →
      ∃ body, Laid [] body source.toList [] ∧
        tokens = body ++ [⟨.endOfFile, "", Place.endOf source.toList⟩]) ∧
    ∀ error, tokenize source = .error error →
      ∃ text c later, source.toList = text ++ c :: later ∧
        Laid [] (scan Place.start source.toList).tokens text (c :: later) ∧
        error = ⟨c, Place.endOf text⟩ ∧ Unmatched c later := by
  obtain ⟨text, hsource, hlaid, hend, hstuck⟩ := scan_laid [] source.toList
  rw [Place.endOf_nil] at hsource hlaid hend hstuck
  rw [List.nil_append] at hend
  unfold tokenize Scan.result
  constructor
  · intro tokens htokens
    split at htokens
    · rename_i hrest
      rw [hrest, List.append_nil] at hsource
      rw [hrest] at hlaid
      subst hsource
      cases htokens
      exact ⟨_, hlaid, by rw [hend]⟩
    · cases htokens
  · intro error herror
    split at herror
    · cases herror
    · rename_i c later hrest
      rw [hrest] at hsource hlaid
      cases herror
      exact ⟨text, c, later, hsource, hlaid, by rw [hend], hstuck c later hrest⟩

end ScriptStudio
