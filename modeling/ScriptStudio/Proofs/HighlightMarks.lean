import ScriptStudio.Proofs.HighlightLexemes
import ScriptStudio.Proofs.ReservedWords

/-!
# Marks of strings and comments

Scanning and highlighting cut a line into lexemes by rules of their own. Both rules look for quotes
and for the sign of a comment, and the other lexemes have none of these marks in them. So the texts
in quotes and the comments of a line are found by its marks alone, on either side. A scan lets a
backslash take the next character with it; highlighting does not.

* `Highlight.Marked`: highlights found by marks.
* `Highlight.marked_ofLine`: what a line has highlighted in this way.
* `Leads.quoted_or_plain`: the marks in a lexeme that a scan finds.
* `Laid.marked`: the marks in a text that is laid out as tokens.
-/

namespace ScriptStudio

/-- The character is a quote, or opens a comment. -/
def isMark (c : Char) : Bool := c == '"' || c == '\'' || c == '#'

variable {c : Char} {text : List Char}

theorem eq_or_of_isMark (h : isMark c = true) : c = '"' ∨ c = '\'' ∨ c = '#' := by
  simpa [isMark, or_assoc] using h

/-- No character of a class without the marks is a mark. -/
theorem isMark_eq_false {test : Char → Bool} (hdouble : test '"' = false)
    (hsingle : test '\'' = false) (hcomment : test '#' = false) (h : test c = true) :
    isMark c = false := by
  by_contra hmark
  rcases eq_or_of_isMark (Bool.eq_true_of_not_eq_false hmark) with rfl | rfl | rfl
  · rw [hdouble] at h; cases h
  · rw [hsingle] at h; cases h
  · rw [hcomment] at h; cases h

theorem isMark_of_quote {quote : Char} (h : quote = '"' ∨ quote = '\'') : isMark quote = true := by
  rcases h with rfl | rfl <;> rfl

theorem isMark_eq_false_of_all {chars : List Char} (h : chars.all (!isMark ·) = true) :
    ∀ c ∈ chars, isMark c = false := by
  simpa using h

theorem isMark_of_continuesName (h : Text.continuesName c = true) : isMark c = false :=
  isMark_eq_false (by decide) (by decide) (by decide) h

namespace HighlightKind

open Highlight

theorem IsLexeme.isMark_eq_false {kind : HighlightKind} {lexeme : List Char}
    (h : kind.IsLexeme lexeme) (hstring : kind ≠ .string) (hcomment : kind ≠ .comment) :
    ∀ c ∈ lexeme, isMark c = false := by
  have hword : ∀ words : List String, (∀ word ∈ words, word.toList.all (!isMark ·) = true) →
      String.ofList lexeme ∈ words → ∀ c ∈ lexeme, isMark c = false := by
    intro words hwords hmem
    have hall := hwords _ hmem
    rw [String.toList_ofList] at hall
    exact isMark_eq_false_of_all hall
  cases kind with
  | comment => exact absurd rfl hcomment
  | string => exact absurd rfl hstring
  | number =>
    obtain ⟨whole, fraction, -, hwhole, hfraction, hlexeme⟩ := h
    have hdecimal : ∀ c, Text.isDecimal c = true → isMark c = false := fun c hc =>
      ScriptStudio.isMark_eq_false (by decide) (by decide) (by decide) hc
    intro c hc
    rcases hlexeme with rfl | rfl
    · exact hdecimal c (hwhole c hc)
    · rw [List.mem_append, List.mem_cons] at hc
      rcases hc with hc | rfl | hc
      · exact hdecimal c (hwhole c hc)
      · rfl
      · exact hdecimal c (hfraction c hc)
  | boolean => exact hword booleanWords (by decide) h
  | logical => exact hword logicalWords (by decide) h
  | input => exact hword ["input"] (by decide) h
  | keyword => exact hword keywords (by decide) h
  | operator =>
    have hpairs : "=!<>".toList.all (!isMark ·) = true := by decide
    have hsingles : "+-*/%=<>".toList.all (!isMark ·) = true := by decide
    obtain ⟨a, ⟨ha, rfl⟩ | ⟨ha, rfl⟩⟩ := h
    · have hmark := isMark_eq_false_of_all hpairs a ha
      have hequal : isMark '=' = false := rfl
      exact isMark_eq_false_of_all (by simp [hmark, hequal])
    · have hmark := isMark_eq_false_of_all hsingles a ha
      exact isMark_eq_false_of_all (by simp [hmark])
  | delimiter =>
    have hsingles : "()\x7b\x7d".toList.all (!isMark ·) = true := by decide
    obtain ⟨a, ha, rfl⟩ := h
    have hmark := isMark_eq_false_of_all hsingles a ha
    exact isMark_eq_false_of_all (by simp [hmark])

end HighlightKind

namespace Highlight

/-! ## Highlights by marks -/

/-- The highlight is of a text in quotes or of a comment. -/
def isVerbatim (highlight : Highlight) : Bool :=
  highlight.kind == .string || highlight.kind == .comment

/-- The texts in quotes and the comment of a line from a column on, by the marks in it. A quote that
is not closed is passed over. -/
inductive Marked (number : Nat) : Nat → List Char → List Highlight → Prop
  | none {column : Nat} : Marked number column [] []
  | plain {column : Nat} {c : Char} {rest : List Char} {found : List Highlight}
    (hc : isMark c = false) (hrest : Marked number (column + 1) rest found) :
    Marked number column (c :: rest) found
  | comment {column : Nat} {text : List Char} :
    Marked number column ('#' :: text) [⟨.comment, number, column, column + (text.length + 1)⟩]
  | string {column : Nat} {quote : Char} {inner later : List Char} {found : List Highlight}
    (hquote : quote = '"' ∨ quote = '\'') (hinner : quote ∉ inner)
    (hlater : Marked number (column + (inner.length + 2)) later found) :
    Marked number column (quote :: (inner ++ quote :: later))
      (⟨.string, number, column, column + (inner.length + 2)⟩ :: found)
  | unclosed {column : Nat} {quote : Char} {rest : List Char} {found : List Highlight}
    (hquote : quote = '"' ∨ quote = '\'') (hnone : quote ∉ rest)
    (hrest : Marked number (column + 1) rest found) : Marked number column (quote :: rest) found

namespace Marked

variable {number column : Nat} {front rest text : List Char} {found other : List Highlight}

theorem plain_append (hfront : ∀ c ∈ front, isMark c = false)
    (hrest : Marked number (column + front.length) rest found) :
    Marked number column (front ++ rest) found := by
  induction front generalizing column with
  | nil => exact hrest
  | cons c front ih =>
    refine .plain (hfront c List.mem_cons_self) (ih (fun d hd => hfront d (.tail c hd)) ?_)
    rwa [Nat.add_assoc, Nat.add_comm 1]

/-- The marks of a line leave no choice. -/
theorem unique (h : Marked number column text found) (hother : Marked number column text other) :
    found = other := by
  induction h generalizing other with
  | none =>
    cases hother
    rfl
  | plain hc _ ih =>
    cases hother with
    | plain _ hrest => exact ih hrest
    | comment => exact absurd hc (by decide)
    | string hquote | unclosed hquote =>
      rw [isMark_of_quote hquote] at hc
      cases hc
  | comment =>
    generalize hchars : '#' :: _ = chars at hother
    cases hother with
    | none => cases hchars
    | plain hc =>
      obtain ⟨rfl, -⟩ := List.cons.inj hchars
      exact absurd hc (by decide)
    | comment =>
      cases hchars
      rfl
    | string hquote | unclosed hquote =>
      obtain ⟨rfl, -⟩ := List.cons.inj hchars
      exact absurd hquote (by decide)
  | @string _ quote inner later _ hquote hinner _ ih =>
    generalize hchars : quote :: (inner ++ quote :: later) = chars at hother
    cases hother with
    | none => cases hchars
    | plain hc =>
      obtain ⟨rfl, -⟩ := List.cons.inj hchars
      rw [isMark_of_quote hquote] at hc
      cases hc
    | comment =>
      obtain ⟨rfl, -⟩ := List.cons.inj hchars
      exact absurd hquote (by decide)
    | string hquote' hinner' hlater' =>
      obtain ⟨rfl, hrest⟩ := List.cons.inj hchars
      have hsame := congrArg (List.takeWhile (· != quote)) hrest
      rw [takeWhile_quote hinner, takeWhile_quote hinner'] at hsame
      subst hsame
      obtain ⟨-, rfl⟩ := List.cons.inj (List.append_cancel_left hrest)
      rw [ih hlater']
    | unclosed hquote' hnone' =>
      obtain ⟨rfl, rfl⟩ := List.cons.inj hchars
      exact absurd (List.mem_append_right _ List.mem_cons_self) hnone'
  | @unclosed _ quote rest _ hquote hnone _ ih =>
    generalize hchars : quote :: rest = chars at hother
    cases hother with
    | none => cases hchars
    | plain hc =>
      obtain ⟨rfl, -⟩ := List.cons.inj hchars
      rw [isMark_of_quote hquote] at hc
      cases hc
    | comment =>
      obtain ⟨rfl, -⟩ := List.cons.inj hchars
      exact absurd hquote (by decide)
    | string =>
      obtain ⟨rfl, rfl⟩ := List.cons.inj hchars
      exact absurd (List.mem_append_right _ List.mem_cons_self) hnone
    | unclosed _ _ hrest =>
      obtain ⟨rfl, rfl⟩ := List.cons.inj hchars
      exact ih hrest

theorem lt_stop (h : Marked number column text found) : ∀ x ∈ found, column < x.stop := by
  induction h with
  | none => simp
  | plain _ _ ih | unclosed _ _ _ ih => exact fun x hx => Nat.lt_of_succ_lt (ih x hx)
  | comment => simp
  | string _ _ _ ih =>
    intro x hx
    rcases List.mem_cons.mp hx with rfl | hx
    · dsimp only
      omega
    · have hlater := ih x hx
      omega

theorem cut_nil (h : Marked number column rest found) (hstop : ∀ x ∈ found, x.stop ≤ column) :
    Marked number column [] found ∧ Marked number column rest [] := by
  obtain rfl : found = [] := List.eq_nil_iff_forall_not_mem.mpr fun x hx =>
    Nat.not_lt_of_le (hstop x hx) (h.lt_stop x hx)
  exact ⟨.none, h⟩

theorem cut (h : Marked number column (front ++ rest) found)
    (hstop : ∀ x ∈ found, x.stop ≤ column + front.length) :
    Marked number column front found ∧ Marked number (column + front.length) rest [] := by
  generalize hchars : front ++ rest = text at h
  induction h generalizing front with
  | none =>
    obtain ⟨rfl, rfl⟩ := List.append_eq_nil_iff.mp hchars
    exact ⟨.none, .none⟩
  | plain hc hothers ih =>
    cases front with
    | nil =>
      rw [List.nil_append] at hchars
      exact cut_nil (hchars ▸ .plain hc hothers) hstop
    | cons d front =>
      obtain ⟨rfl, hrest⟩ := List.cons.inj hchars
      rw [List.length_cons, Nat.add_comm front.length, ← Nat.add_assoc] at hstop ⊢
      obtain ⟨hfront, hbehind⟩ := ih hstop hrest
      exact ⟨.plain hc hfront, hbehind⟩
  | @comment column text =>
    have hlength := congrArg List.length hchars
    have hend := hstop _ List.mem_cons_self
    rw [List.length_append, List.length_cons] at hlength
    dsimp only at hend
    obtain rfl : rest = [] := List.eq_nil_of_length_eq_zero (by omega)
    rw [List.append_nil] at hchars
    exact ⟨hchars ▸ .comment, .none⟩
  | @string column quote inner later found hquote hinner _ ih =>
    have hend := hstop _ List.mem_cons_self
    dsimp only at hend
    have hwhole : quote :: (inner ++ quote :: later) = (quote :: (inner ++ [quote])) ++ later := by
      simp
    obtain ⟨more, rfl⟩ : quote :: (inner ++ [quote]) <+: front := by
      refine List.prefix_of_prefix_length_le (hwhole ▸ List.prefix_append _ later)
        (hchars ▸ List.prefix_append front rest) ?_
      simp only [List.length_cons, List.length_append, List.length_nil]
      omega
    rw [hwhole, List.append_assoc] at hchars
    have hlength : column + (quote :: (inner ++ [quote]) ++ more).length =
        column + (inner.length + 2) + more.length := by
      simp only [List.length_cons, List.length_append, List.length_nil]
      omega
    rw [hlength] at hstop ⊢
    obtain ⟨hfront, hbehind⟩ :=
      ih (fun x hx => hstop x (List.mem_cons_of_mem _ hx)) (List.append_cancel_left hchars)
    have hsame : quote :: (inner ++ [quote]) ++ more = quote :: (inner ++ quote :: more) := by simp
    rw [hsame]
    exact ⟨.string hquote hinner hfront, hbehind⟩
  | unclosed hquote hnone hothers ih =>
    cases front with
    | nil =>
      rw [List.nil_append] at hchars
      exact cut_nil (hchars ▸ .unclosed hquote hnone hothers) hstop
    | cons d front =>
      obtain ⟨rfl, rfl⟩ := List.cons.inj hchars
      rw [List.length_cons, Nat.add_comm front.length, ← Nat.add_assoc] at hstop ⊢
      obtain ⟨hfront, hbehind⟩ := ih hstop rfl
      exact ⟨.unclosed hquote (fun hmem => hnone (List.mem_append_left _ hmem)) hfront, hbehind⟩

theorem not_verbatim (h : Marked number column text []) :
    '#' ∉ text ∧ ∀ quote, quote = '"' ∨ quote = '\'' → ∀ before inner later,
      text ≠ before ++ quote :: (inner ++ quote :: later) := by
  generalize hfound : ([] : List Highlight) = found at h
  induction h with
  | none => simp
  | @plain column c rest found hc _ ih =>
    obtain ⟨hcomment, hstring⟩ := ih hfound
    refine ⟨?_, fun quote hquote before inner later heq => ?_⟩
    · rintro (_ | ⟨_, hmem⟩)
      · exact absurd hc (by decide)
      · exact hcomment hmem
    · cases before with
      | nil =>
        obtain ⟨rfl, -⟩ := List.cons.inj heq
        rw [isMark_of_quote hquote] at hc
        cases hc
      | cons d before => exact hstring quote hquote before inner later (List.cons.inj heq).2
  | comment => cases hfound
  | string => cases hfound
  | @unclosed column opening rest found hopening hnone _ ih =>
    obtain ⟨hcomment, hstring⟩ := ih hfound
    refine ⟨?_, fun quote hquote before inner later heq => ?_⟩
    · rintro (_ | ⟨_, hmem⟩)
      · exact absurd hopening (by decide)
      · exact hcomment hmem
    · cases before with
      | nil =>
        obtain ⟨rfl, rfl⟩ := List.cons.inj heq
        exact hnone (List.mem_append_right _ List.mem_cons_self)
      | cons d before => exact hstring quote hquote before inner later (List.cons.inj heq).2

end Marked

theorem marked_plain {afterWord : Bool} {rest : List Char} {number column : Nat}
    {found : List Highlight} (h : lexeme? afterWord (c :: rest) = none)
    (hlater : Marked number (column + plainLength (c :: rest))
      ((c :: rest).drop (plainLength (c :: rest))) found) :
    Marked number column (c :: rest) found := by
  by_cases hname : Text.startsName c = true
  · have hfront : ∀ d ∈ c :: rest.takeWhile Text.continuesName, isMark d = false := by
      intro d hd
      rcases List.mem_cons.mp hd with rfl | hd
      · exact isMark_of_continuesName (Pattern.continuesName_of_startsName hname)
      · exact isMark_of_continuesName (List.mem_takeWhile_imp hd)
    have hlength : plainLength (c :: rest) = (c :: rest.takeWhile Text.continuesName).length := by
      rw [plainLength, if_pos hname, List.length_cons, Nat.add_comm]
    have hdrop : (c :: rest).drop (c :: rest.takeWhile Text.continuesName).length =
        rest.dropWhile Text.continuesName := by
      have hsplit := List.takeWhile_append_dropWhile (p := Text.continuesName) (l := rest)
      conv_lhs => rw [← hsplit, ← List.cons_append]
      exact List.drop_left' (by rw [hsplit])
    rw [hlength, hdrop] at hlater
    have hmarked := hlater.plain_append hfront
    rwa [List.cons_append, List.takeWhile_append_dropWhile] at hmarked
  · rw [plainLength, if_neg hname] at hlater
    by_cases hmark : isMark c = true
    · have hunclosed : (c = '"' ∨ c = '\'') → c ∉ rest := by
        intro hquote hmem
        obtain ⟨inner, later, rfl, hinner⟩ := List.eq_append_cons_of_mem hmem
        have hnone := length?_eq_none h .string
        rw [HighlightKind.length?, stringLength?_quote hquote hinner] at hnone
        cases hnone
      rcases eq_or_of_isMark hmark with hc | hc | rfl
      · exact .unclosed (.inl hc) (hunclosed (.inl hc)) hlater
      · exact .unclosed (.inr hc) (hunclosed (.inr hc)) hlater
      · cases length?_eq_none h .comment
    · exact .plain (Bool.eq_false_of_not_eq_true hmark) hlater

/-- A lexeme is verbatim, or has no mark in it. -/
theorem marked_lexeme {afterWord : Bool} {chars : List Char} {kind : HighlightKind}
    {number column length : Nat} {found : List Highlight}
    (h : lexeme? afterWord chars = some (kind, length))
    (hlater : Marked number (column + length) (chars.drop length) found) :
    Marked number column chars
      ([⟨kind, number, column, column + length⟩].filter isVerbatim ++ found) := by
  by_cases hcomment : kind = .comment
  · subst hcomment
    obtain ⟨text, rfl, rfl⟩ := exists_of_commentLength? (length?_of_lexeme? h)
    rw [List.drop_length] at hlater
    cases hlater
    exact .comment
  by_cases hstring : kind = .string
  · subst hstring
    obtain ⟨quote, inner, later, hquote, hinner, rfl, rfl⟩ :=
      exists_of_stringLength? (length?_of_lexeme? h)
    have hdrop : (quote :: (inner ++ quote :: later)).drop (inner.length + 2) = later := by
      simp
    rw [hdrop] at hlater
    exact .string hquote hinner hlater
  · obtain ⟨lexeme, later, rfl, rfl, hlexeme⟩ := exists_of_lexeme? h
    have hnone : [(⟨kind, number, column, column + lexeme.length⟩ : Highlight)].filter isVerbatim =
        [] := by
      simp [isVerbatim, hcomment, hstring]
    rw [hnone, List.nil_append]
    rw [List.drop_left] at hlater
    exact hlater.plain_append (hlexeme.isMark_eq_false hstring hcomment)

theorem marked_lineFrom {fuel : Nat} {chars : List Char} (h : chars.length < fuel)
    (number column : Nat) (afterWord : Bool) :
    Marked number column chars
      ((lineFrom number fuel column afterWord chars).filter isVerbatim) := by
  induction fuel generalizing column afterWord chars with
  | zero => exact absurd h (Nat.not_lt_zero _)
  | succ fuel ih =>
    cases chars with
    | nil => exact .none
    | cons c rest =>
      obtain ⟨hpos, hle⟩ := step_spec afterWord c rest
      have hrest : ((c :: rest).drop (step afterWord (c :: rest))).length < fuel := by
        rw [List.length_drop, List.length_cons]
        rw [List.length_cons] at h
        omega
      rw [lineFrom_cons, List.filter_append]
      have hlater := ih hrest (column + step afterWord (c :: rest))
        (endsWord (c :: rest) (step afterWord (c :: rest)))
      cases hfound : lexeme? afterWord (c :: rest) with
      | none =>
        rw [step, hfound] at hlater ⊢
        exact marked_plain hfound hlater
      | some found =>
        rw [step, hfound] at hlater ⊢
        exact marked_lexeme hfound hlater

theorem marked_ofLine (number : Nat) (line : List Char) :
    Marked number 0 line ((ofLine number line).filter isVerbatim) :=
  marked_lineFrom (Nat.lt_succ_self _) number 0 false

end Highlight

/-! ## Marks in tokens -/

namespace Pattern

variable {c quote : Char} {rest : List Char} {length : Nat}

theorem isDecimal_or_eq_of_numeral (h : numeral c rest = some length) :
    ∀ d ∈ c :: rest.take length, Text.isDecimal d = true ∨ d = '.' := by
  have hsplit := List.takeWhile_append_dropWhile (p := Text.isDecimal) (l := rest)
  unfold numeral at h
  split at h
  · next hc =>
    dsimp only at h
    intro d hd
    rcases List.mem_cons.mp hd with rfl | hd
    · exact .inl hc
    split at h
    · next more hpoint =>
      cases h
      have hwhole : ∀ d ∈ rest.takeWhile Text.isDecimal, Text.isDecimal d = true := fun _ =>
        List.mem_takeWhile_imp
      rw [hpoint] at hsplit
      generalize rest.takeWhile Text.isDecimal = whole at hsplit hwhole hd
      rw [← hsplit, Nat.add_assoc, List.take_length_add_append, Nat.add_comm 1,
        List.take_succ_cons, ← List.prefix_iff_eq_take.mp (List.takeWhile_prefix _),
        List.mem_append, List.mem_cons] at hd
      rcases hd with hd | rfl | hd
      · exact .inl (hwhole d hd)
      · exact .inr rfl
      · exact .inl (List.mem_takeWhile_imp hd)
    · cases h
      rw [← List.prefix_iff_eq_take.mp (List.takeWhile_prefix _)] at hd
      exact .inl (List.mem_takeWhile_imp hd)
  · cases h

theorem continuesName_of_name (h : name c rest = some length) :
    ∀ d ∈ c :: rest.take length, Text.continuesName d = true := by
  unfold name at h
  split at h
  · next hc =>
    cases h
    rw [← List.prefix_iff_eq_take.mp (List.takeWhile_prefix _)]
    intro d hd
    rcases List.mem_cons.mp hd with rfl | hd
    · exact continuesName_of_startsName hc
    · exact List.mem_takeWhile_imp hd
  · cases h

/-- A text in quotes ends with a quote of its kind. -/
theorem exists_of_closing? (h : closing? quote rest = some length) :
    ∃ inner, rest.take length = inner ++ [quote] := by
  fun_induction closing? quote rest generalizing length with
  | case1 | case2 | case5 => cases h
  | case3 escaped rest hescaped ih =>
    obtain ⟨more, hmore, rfl⟩ := Option.map_eq_some_iff.mp h
    obtain ⟨inner, hinner⟩ := ih hmore
    exact ⟨'\\' :: escaped :: inner, by simp [hinner]⟩
  | case4 rest =>
    cases h
    exact ⟨[], rfl⟩
  | case6 c rest _ hc hslash ih =>
    obtain ⟨more, hmore, rfl⟩ := Option.map_eq_some_iff.mp h
    obtain ⟨inner, hinner⟩ := ih hmore
    exact ⟨c :: inner, by simp [hinner]⟩

end Pattern

/-- A lexeme that a scan finds is a text in quotes, or has no mark in it. -/
theorem Leads.quoted_or_plain {kind : TokenKind} {lexeme : List Char} (h : Leads kind lexeme text) :
    (kind = .string ∧ ∃ quote inner, (quote = '"' ∨ quote = '\'') ∧
        lexeme = quote :: (inner ++ [quote])) ∨
      kind ≠ .string ∧ ∀ c ∈ lexeme, isMark c = false := by
  obtain ⟨c, rest, length, -, hfound, rfl⟩ := h
  obtain ⟨pattern, hpattern, rfl, htail⟩ := exists_pattern_of_lexeme? hfound
  have hwords : ∀ entry ∈ reservedWords ++ symbols,
      entry.2 ≠ .string ∧ entry.1.toList.all (!isMark ·) = true := by
    decide
  have hquoted : ∀ quote, quote = '"' ∨ quote = '\'' →
      Pattern.quotation quote c rest = some length → ∃ quote inner, (quote = '"' ∨ quote = '\'') ∧
        c :: rest.take length = quote :: (inner ++ [quote]) := by
    intro quote hquote h
    simp only [Pattern.quotation, Option.ite_none_right_eq_some] at h
    obtain ⟨rfl, hclosing⟩ := h
    obtain ⟨inner, hinner⟩ := Pattern.exists_of_closing? hclosing
    exact ⟨c, inner, hquote, by rw [hinner]⟩
  simp only [patterns, List.mem_append, List.mem_map, List.mem_cons, List.not_mem_nil,
    or_false] at hpattern
  rcases hpattern with (⟨entry, hentry, rfl⟩ | rfl | rfl | rfl | rfl) | ⟨entry, hentry, rfl⟩
  · obtain ⟨hkind, hplain⟩ := hwords entry (List.mem_append_left _ hentry)
    rw [Pattern.cons_take_of_reserved htail]
    exact .inr ⟨hkind, isMark_eq_false_of_all hplain⟩
  · refine .inr ⟨by decide, fun d hd => ?_⟩
    rcases Pattern.isDecimal_or_eq_of_numeral htail d hd with hd | rfl
    · exact isMark_eq_false (by decide) (by decide) (by decide) hd
    · rfl
  · exact .inl ⟨rfl, hquoted _ (.inl rfl) htail⟩
  · exact .inl ⟨rfl, hquoted _ (.inr rfl) htail⟩
  · exact .inr ⟨by decide, fun d hd => isMark_of_continuesName
      (Pattern.continuesName_of_name htail d hd)⟩
  · obtain ⟨hkind, hplain⟩ := hwords entry (List.mem_append_right _ hentry)
    rw [Pattern.cons_take_of_spelled htail]
    exact .inr ⟨hkind, isMark_eq_false_of_all hplain⟩

/-! ## Marks in a layout -/

/-- Between its quotes, the text has no quote of its own kind. -/
def OwnQuoteFree (text : List Char) : Prop := ∀ quote ∈ text.head?, quote ∉ text.tail.dropLast

theorem ownQuoteFree_iff {quote : Char} {inner : List Char} :
    OwnQuoteFree (quote :: (inner ++ [quote])) ↔ quote ∉ inner := by
  simp [OwnQuoteFree]

/-- The stretch that a text in quotes takes in its line. -/
def Token.stretch (token : Token) : Highlight :=
  ⟨.string, token.place.line, token.place.column - 1,
    token.place.column - 1 + token.text.toList.length⟩

/-- The stretches of the texts in quotes. -/
def stretches (tokens : List Token) : List Highlight :=
  (tokens.filter (·.kind == .string)).map Token.stretch

theorem stretches_cons (token : Token) (tokens : List Token) :
    stretches (token :: tokens) = stretches [token] ++ stretches tokens := by
  rw [stretches, stretches, stretches, ← List.map_append, ← List.filter_append,
    List.singleton_append]

theorem Place.endOf_of_not_mem (h : '\n' ∉ text) : Place.endOf text = ⟨1, 1 + text.length⟩ := by
  have hline : text.reverse.takeWhile (· ≠ '\n') = text.reverse := by
    rw [List.takeWhile_eq_self_iff]
    intro c hc
    rw [decide_eq_true_iff]
    rintro rfl
    exact h (List.mem_reverse.mp hc)
  rw [Place.endOf, List.count_eq_zero_of_not_mem h, hline, List.length_reverse]

/-- A gap is blanks and then perhaps a comment. -/
theorem Gap.exists_blanks {gap later : List Char} (h : Gap gap later) :
    ∃ blanks comment, gap = blanks ++ comment ∧ (∀ c ∈ blanks, isMark c = false) ∧
      Gap blanks (comment ++ later) ∧
      (comment = [] ∨ comment.head? = some '#' ∧ AtLineEnd later) := by
  induction h with
  | none => exact ⟨[], [], rfl, by simp, .none, .inl rfl⟩
  | @blank c gap later hc _ ih =>
    obtain ⟨blanks, comment, rfl, hblanks, hgap, hcomment⟩ := ih
    refine ⟨c :: blanks, comment, rfl, fun d hd => ?_, .blank hc hgap, hcomment⟩
    rcases List.mem_cons.mp hd with rfl | hd
    · rcases hc with rfl | rfl | rfl <;> rfl
    · exact hblanks d hd
  | @comment text later htext hlater =>
    exact ⟨[], '#' :: text, rfl, by simp, .none, .inr ⟨rfl, hlater⟩⟩

open Highlight (Marked)

theorem marked_token {token : Token} {column : Nat} {later : List Char} {found : List Highlight}
    (hleads : Leads token.kind token.text.toList (token.text.toList ++ later))
    (hplace : token.place = ⟨1, 1 + column⟩)
    (hfree : token.kind = .string → OwnQuoteFree token.text.toList)
    (hlater : Marked 1 (column + token.text.toList.length) later found) :
    Marked 1 column (token.text.toList ++ later) (stretches [token] ++ found) := by
  rcases hleads.quoted_or_plain with ⟨hkind, quote, inner, hquote, htext⟩ | ⟨hkind, hplain⟩
  · have hinner := hfree hkind
    rw [htext, ownQuoteFree_iff] at hinner
    have hlength : token.text.toList.length = inner.length + 2 := by
      rw [htext]
      simp
    have hstretch : stretches [token] = [⟨.string, 1, column, column + (inner.length + 2)⟩] := by
      simp [stretches, Token.stretch, hkind, hplace, hlength]
    rw [hlength] at hlater
    rw [hstretch, htext, List.cons_append, List.append_assoc]
    exact .string hquote hinner hlater
  · have hstretch : stretches [token] = [] := by
      simp [stretches, hkind]
    rw [hstretch]
    exact hlater.plain_append hplain

/-- In one line the marks of a layout are the quotes of its texts in quotes, up to a comment at its
end. -/
theorem Laid.marked {before rest : List Char} {tokens : List Token}
    (h : Laid before tokens text rest) (hline : '\n' ∉ before ++ text)
    (hrest : rest = [] ∨ rest.head? = some '#')
    (hfree : ∀ token ∈ tokens, token.kind = .string → OwnQuoteFree token.text.toList) :
    ∃ front comment, text = front ++ comment ∧ Laid before tokens front (comment ++ rest) ∧
      (comment = [] ∨ comment.head? = some '#' ∧ rest = []) ∧
      ∀ found, Marked 1 (before.length + front.length) (comment ++ rest) found →
        Marked 1 before.length (text ++ rest) (stretches tokens ++ found) := by
  induction h with
  | @gap before gap rest hgap =>
    obtain ⟨blanks, comment, rfl, hblanks, hgap, hcomment⟩ := hgap.exists_blanks
    refine ⟨blanks, comment, rfl, .gap hgap, ?_, fun found hfound => ?_⟩
    · rcases hcomment with hnone | ⟨hhead, hend⟩
      · exact .inl hnone
      · refine .inr ⟨hhead, hrest.resolve_right fun hsign => ?_⟩
        exact absurd (hend _ hsign) (by decide)
    · rw [List.append_assoc]
      exact hfound.plain_append hblanks
  | @token before gap text rest token tokens hgap hplace hleads _ ih =>
    obtain ⟨c, word, htext, -⟩ := hleads.exists_lexeme?
    -- A comment would reach up to the lexeme, which is in the same line.
    have hblanks : ∀ c ∈ gap, isMark c = false := by
      obtain ⟨blanks, comment, rfl, hblanks, -, rfl | ⟨-, hend⟩⟩ := hgap.exists_blanks
      · rwa [List.append_nil]
      · refine absurd ?_ hline
        rw [← hend c (by rw [htext]; rfl)]
        simp [htext]
    have hsame : before ++ (gap ++ (token.text.toList ++ text)) =
        before ++ (gap ++ token.text.toList) ++ text := by
      simp only [List.append_assoc]
    have hplace' : token.place = ⟨1, 1 + (before ++ gap).length⟩ := by
      rw [hplace, Place.endOf_of_not_mem]
      rw [← List.append_assoc] at hline
      exact fun hmem => hline (List.mem_append_left _ hmem)
    obtain ⟨front, comment, rfl, hlaid, hcomment, hmarked⟩ :=
      ih (hsame ▸ hline) hrest fun token htoken => hfree token (List.mem_cons_of_mem _ htoken)
    rw [List.append_assoc] at hgap hleads
    refine ⟨gap ++ (token.text.toList ++ front), comment, by simp only [List.append_assoc],
      .token hgap hplace hleads hlaid, hcomment, fun found hfound => ?_⟩
    have hlength : (before ++ (gap ++ token.text.toList)).length =
        (before ++ gap).length + token.text.toList.length := by
      rw [← List.append_assoc, List.length_append]
    have hlater := hmarked found (by
      convert hfound using 1
      simp only [List.length_append]
      omega)
    rw [hlength, List.append_assoc front] at hlater
    have htoken := marked_token hleads hplace' (hfree token List.mem_cons_self) hlater
    rw [List.length_append] at htoken
    rw [stretches_cons, List.append_assoc, List.append_assoc, List.append_assoc, List.append_assoc]
    exact htoken.plain_append hblanks

end ScriptStudio
