import Mathlib.Data.List.Basic
import ScriptStudio.Token.Scan

/-!
# Scanning line by line

A line end closes every lexeme and every comment: what a text scans to does not depend on what
follows the next line end. This module proves that scanning a text, a line end and a second text is
scanning the two texts one after the other.

There are three groups.

* The patterns. `mem_patterns` says once what a pattern can be. A lexeme that was found stays the
  one that is found when a line end and more text follow, and it lies inside the text.
* Places. Moving the start of a text down by some lines moves every token down by as many lines.
* The composition. `scan_append_newline` is the induction, and `tokenize_append_newline` states it
  for source texts.
-/

namespace ScriptStudio

namespace Pattern

/-! ## What a line end does to a pattern -/

variable {word rest : List Char} {c : Char} {length : Nat} {pattern : Pattern}

theorem isPrefixOf_append_newline (hword : '\n' ∉ word) (rest later : List Char) :
    word.isPrefixOf (rest ++ '\n' :: later) = word.isPrefixOf rest := by
  induction word generalizing rest with
  | nil => simp
  | cons c word ih =>
    simp only [List.mem_cons, not_or] at hword
    cases rest with
    | nil =>
      have hc : (c == '\n') = false := by simpa using Ne.symm hword.1
      simp [List.isPrefixOf, hc]
    | cons d rest => simp [List.isPrefixOf, ih hword.2]

theorem spelled_append_newline (hword : '\n' ∉ word.tail) (c : Char) (rest later : List Char) :
    spelled word c (rest ++ '\n' :: later) = spelled word c rest := by
  cases word with
  | nil => rfl
  | cons first more =>
    have hmore : '\n' ∉ more := hword
    simp only [spelled, isPrefixOf_append_newline hmore]

theorem length_le_of_spelled (h : spelled word c rest = some length) : length ≤ rest.length := by
  cases word with
  | nil => simp [spelled] at h
  | cons first more =>
    simp only [spelled, Option.ite_none_right_eq_some, Bool.and_eq_true, decide_eq_true_eq,
      Option.some.injEq] at h
    obtain ⟨⟨_, hprefix⟩, rfl⟩ := h
    exact (List.isPrefixOf_iff_prefix.mp hprefix).length_le

theorem atBoundary_append_newline (rest later : List Char) :
    atBoundary (rest ++ '\n' :: later) = atBoundary rest := by
  cases rest with
  | nil =>
    have hbreak : Text.isWord '\n' = false := by decide
    simp [atBoundary, hbreak]
  | cons c rest => rfl

theorem reserved_append_newline (hword : '\n' ∉ word) (c : Char) (rest later : List Char) :
    reserved word c (rest ++ '\n' :: later) = reserved word c rest := by
  have htail : '\n' ∉ word.tail := fun h => hword (List.mem_of_mem_tail h)
  unfold reserved
  rw [spelled_append_newline htail]
  cases hspelled : spelled word c rest with
  | none => rfl
  | some length =>
    have hle := length_le_of_spelled hspelled
    simp only [List.drop_append_of_le_length hle, atBoundary_append_newline]

theorem length_le_of_reserved (h : reserved word c rest = some length) : length ≤ rest.length := by
  unfold reserved at h
  split at h
  · rename_i found hspelled
    simp only [Option.ite_none_right_eq_some, Option.some.injEq] at h
    exact h.2 ▸ length_le_of_spelled hspelled
  · cases h

theorem takeWhile_append_newline {p : Char → Bool} (hp : p '\n' = false)
    (rest later : List Char) :
    (rest ++ '\n' :: later).takeWhile p = rest.takeWhile p := by
  induction rest with
  | nil => simp [hp]
  | cons c rest ih => cases hc : p c <;> simp [hc, ih]

theorem dropWhile_append_newline {p : Char → Bool} (hp : p '\n' = false)
    (rest later : List Char) :
    (rest ++ '\n' :: later).dropWhile p = rest.dropWhile p ++ '\n' :: later := by
  induction rest with
  | nil => simp [hp]
  | cons c rest ih => cases hc : p c <;> simp [hc, ih]

theorem numeral_append_newline (c : Char) (rest later : List Char) :
    numeral c (rest ++ '\n' :: later) = numeral c rest := by
  have hbreak : Text.isDecimal '\n' = false := by decide
  unfold numeral
  rw [takeWhile_append_newline hbreak, dropWhile_append_newline hbreak]
  cases rest.dropWhile Text.isDecimal with
  | nil => simp
  | cons d more =>
    by_cases hd : d = '.'
    · subst hd
      simp [takeWhile_append_newline hbreak]
    · simp [hd]

theorem length_le_of_numeral (h : numeral c rest = some length) : length ≤ rest.length := by
  have hsplit : (rest.takeWhile Text.isDecimal).length + (rest.dropWhile Text.isDecimal).length =
      rest.length := by
    rw [← List.length_append, List.takeWhile_append_dropWhile]
  unfold numeral at h
  split at h
  · split at h
    · rename_i more hpoint
      have hmore : (more.takeWhile Text.isDecimal).length ≤ more.length :=
        (List.takeWhile_prefix _).length_le
      rw [hpoint, List.length_cons] at hsplit
      simp only [Option.some.injEq] at h
      omega
    · simp only [Option.some.injEq] at h
      omega
  · cases h

theorem closing?_append {quote : Char} (hquote : quote ≠ '\\')
    (h : closing? quote rest = some length) (later : List Char) :
    closing? quote (rest ++ later) = some length ∧ length ≤ rest.length := by
  fun_induction closing? quote rest generalizing length with
  | case1 => cases h
  | case2 rest => cases h
  | case3 escaped rest hescaped ih =>
    obtain ⟨inner, hinner, rfl⟩ := Option.map_eq_some_iff.mp h
    obtain ⟨hlater, hle⟩ := ih hinner
    simp only [List.cons_append, closing?, hescaped, if_false, hlater, Option.map_some,
      List.length_cons, true_and]
    omega
  | case4 rest _ =>
    obtain rfl : 1 = length := by simpa using h
    rw [List.cons_append, closing?]
    · simp
    · intro _ _ hslash _
      exact hquote hslash
  | case5 rest _ _ => cases h
  | case6 c rest _ hc hslash ih =>
    obtain ⟨inner, hinner, rfl⟩ := Option.map_eq_some_iff.mp h
    obtain ⟨hlater, hle⟩ := ih hinner
    rw [List.cons_append, closing?]
    · simp only [hc, hslash, if_false, hlater, Option.map_some, List.length_cons, true_and]
      omega
    · intro _ _ hslash' _
      exact hslash hslash'

theorem name_append_newline (c : Char) (rest later : List Char) :
    name c (rest ++ '\n' :: later) = name c rest := by
  have hbreak : Text.continuesName '\n' = false := by decide
  simp only [name, takeWhile_append_newline hbreak]

theorem length_le_of_name (h : name c rest = some length) : length ≤ rest.length := by
  simp only [name, Option.ite_none_right_eq_some, Option.some.injEq] at h
  rw [← h.2]
  exact (List.takeWhile_prefix _).length_le

/-! ## The list of patterns -/

/-- What a pattern can be. No spelling goes on after a line end. -/
theorem mem_patterns (h : pattern ∈ patterns) :
    pattern.kind ≠ .endOfFile ∧
      ((∃ word, '\n' ∉ word ∧ pattern.tail? = reserved word) ∨ pattern.tail? = numeral ∨
        (∃ quote, (quote = '"' ∨ quote = '\'') ∧ pattern.tail? = quotation quote) ∨
        pattern.tail? = name ∨ ∃ word, '\n' ∉ word.tail ∧ pattern.tail? = spelled word) := by
  have hreserved : ∀ entry ∈ reservedWords,
      '\n' ∉ entry.1.toList ∧ entry.2 ≠ .endOfFile := by decide
  have hsymbols : ∀ entry ∈ symbols,
      '\n' ∉ entry.1.toList.tail ∧ entry.2 ≠ .endOfFile := by decide
  simp only [patterns, List.mem_append, List.mem_map, List.mem_cons, List.not_mem_nil,
    or_false] at h
  rcases h with (⟨entry, hentry, rfl⟩ | rfl | rfl | rfl | rfl) | ⟨entry, hentry, rfl⟩
  · exact ⟨(hreserved entry hentry).2, Or.inl ⟨_, (hreserved entry hentry).1, rfl⟩⟩
  · exact ⟨by decide, Or.inr (Or.inl rfl)⟩
  · exact ⟨by decide, Or.inr (Or.inr (Or.inl ⟨_, Or.inl rfl, rfl⟩))⟩
  · exact ⟨by decide, Or.inr (Or.inr (Or.inl ⟨_, Or.inr rfl, rfl⟩))⟩
  · exact ⟨by decide, Or.inr (Or.inr (Or.inr (Or.inl rfl)))⟩
  · exact ⟨(hsymbols entry hentry).2,
      Or.inr (Or.inr (Or.inr (Or.inr ⟨_, (hsymbols entry hentry).1, rfl⟩)))⟩

theorem length_le_of_tail? (hpattern : pattern ∈ patterns)
    (h : pattern.tail? c rest = some length) : length ≤ rest.length := by
  obtain ⟨_, ⟨word, _, htail⟩ | htail | ⟨quote, hquote, htail⟩ | htail | ⟨word, _, htail⟩⟩ :=
    mem_patterns hpattern
  all_goals rw [htail] at h
  · exact length_le_of_reserved h
  · exact length_le_of_numeral h
  · have hslash : quote ≠ '\\' := by
      rcases hquote with rfl | rfl <;> decide
    simp only [quotation, Option.ite_none_right_eq_some] at h
    exact (closing?_append hslash h.2 []).2
  · exact length_le_of_name h
  · exact length_le_of_spelled h

theorem tail?_append_newline (hpattern : pattern ∈ patterns) (hdouble : c ≠ '"')
    (hsingle : c ≠ '\'') (rest later : List Char) :
    pattern.tail? c (rest ++ '\n' :: later) = pattern.tail? c rest := by
  obtain ⟨_, ⟨word, hword, htail⟩ | htail | ⟨quote, hquote, htail⟩ | htail |
    ⟨word, hword, htail⟩⟩ := mem_patterns hpattern
  all_goals rw [htail]
  · exact reserved_append_newline hword c rest later
  · exact numeral_append_newline c rest later
  · have hc : c ≠ quote := by
      rcases hquote with rfl | rfl
      · exact hdouble
      · exact hsingle
    simp only [quotation, hc, if_false]
  · exact name_append_newline c rest later
  · exact spelled_append_newline hword c rest later

end Pattern

/-! ## The lexeme at the front of a text -/

theorem lexeme?_quote {quote : Char} (hquote : quote = '"' ∨ quote = '\'') (rest : List Char) :
    lexeme? quote rest = (Pattern.closing? quote rest).map (.string, ·) := by
  have hnumeral : Pattern.numeral quote rest = none := by
    rcases hquote with rfl | rfl <;> rfl
  have hname : Pattern.name quote rest = none := by
    rcases hquote with rfl | rfl <;> rfl
  rcases hquote with rfl | rfl <;>
    cases hclosing : Pattern.closing? _ rest <;>
    simp [lexeme?, patterns, reservedWords, symbols, Pattern.reserved, Pattern.spelled,
      Pattern.quotation, hnumeral, hname, hclosing]

theorem lexeme?_newline (rest : List Char) : lexeme? '\n' rest = some (.newline, 0) := by
  have hnumeral : Pattern.numeral '\n' rest = none := rfl
  have hname : Pattern.name '\n' rest = none := rfl
  simp [lexeme?, patterns, reservedWords, symbols, Pattern.reserved, Pattern.spelled,
    Pattern.quotation, hnumeral, hname]

variable {c : Char} {rest source : List Char} {kind : TokenKind} {length : Nat}

/-- The pattern that found a lexeme. -/
theorem exists_pattern_of_lexeme? (h : lexeme? c rest = some (kind, length)) :
    ∃ pattern ∈ patterns, pattern.kind = kind ∧ pattern.tail? c rest = some length := by
  obtain ⟨pattern, hpattern, hfound⟩ := List.exists_of_findSome?_eq_some h
  obtain ⟨found, htail, hpair⟩ := Option.map_eq_some_iff.mp hfound
  simp only [Prod.mk.injEq] at hpair
  exact ⟨pattern, hpattern, hpair.1, hpair.2 ▸ htail⟩

theorem length_le_of_lexeme? (h : lexeme? c rest = some (kind, length)) : length ≤ rest.length := by
  obtain ⟨pattern, hpattern, _, htail⟩ := exists_pattern_of_lexeme? h
  exact Pattern.length_le_of_tail? hpattern htail

theorem kind_ne_endOfFile_of_lexeme? (h : lexeme? c rest = some (kind, length)) :
    kind ≠ .endOfFile := by
  obtain ⟨pattern, hpattern, rfl, _⟩ := exists_pattern_of_lexeme? h
  exact (Pattern.mem_patterns hpattern).1

theorem lexeme?_append_newline {found : TokenKind × Nat} (h : lexeme? c rest = some found)
    (later : List Char) : lexeme? c (rest ++ '\n' :: later) = some found := by
  by_cases hquote : c = '"' ∨ c = '\''
  · -- A quoted text may run over line ends, but one that is closed stays closed.
    rw [lexeme?_quote hquote] at h ⊢
    obtain ⟨length, hclosing, rfl⟩ := Option.map_eq_some_iff.mp h
    have hslash : c ≠ '\\' := by
      rcases hquote with rfl | rfl <;> decide
    rw [(Pattern.closing?_append hslash hclosing _).1, Option.map_some]
  · rw [not_or] at hquote
    rw [← h]
    unfold lexeme?
    generalize hall : patterns = all
    have hsub : ∀ pattern ∈ all, pattern ∈ patterns := by
      simp [hall]
    clear hall h
    induction all with
    | nil => rfl
    | cons pattern all ih =>
      rw [List.forall_mem_cons] at hsub
      rw [List.findSome?_cons, List.findSome?_cons,
        Pattern.tail?_append_newline hsub.1 hquote.1 hquote.2, ih hsub.2]

/-! ## Places -/

/-- The place some lines further down. -/
def Place.down (lines : Nat) (place : Place) : Place := ⟨place.line + lines, place.column⟩

/-- The token some lines further down. -/
def Token.down (lines : Nat) (token : Token) : Token :=
  { token with place := token.place.down lines }

theorem Place.next_down (lines : Nat) (place : Place) (c : Char) :
    (place.down lines).next c = (place.next c).down lines := by
  unfold Place.next
  split
  · simp only [Place.down, Place.mk.injEq, and_true]
    omega
  · rfl

theorem Place.advance_down (lines : Nat) (place : Place) (text : List Char) :
    (place.down lines).advance text = (place.advance text).down lines := by
  unfold Place.advance
  induction text generalizing place with
  | nil => rfl
  | cons c text ih => rw [List.foldl_cons, List.foldl_cons, Place.next_down, ih]

theorem scan_down (lines : Nat) (place : Place) (source : List Char) :
    scan (place.down lines) source =
      ⟨(scan place source).tokens.map (Token.down lines), (scan place source).place.down lines,
        (scan place source).rest⟩ := by
  fun_induction scan place source with
  | case1 place => simp [scan]
  | case2 place c rest hgap ih => rw [scan, if_pos hgap, Place.next_down, ih]
  | case3 place rest hgap ih =>
    rw [scan, if_neg hgap, if_pos rfl, Place.next_down, Place.advance_down, ih]
  | case4 place c rest hgap hcomment hnone =>
    rw [scan, if_neg hgap, if_neg hcomment]
    simp [hnone]
  | case5 place c rest hgap hcomment kind length hsome text later ih =>
    rw [scan, if_neg hgap, if_neg hcomment]
    simp only [hsome, Place.advance_down]
    rw [ih]
    rfl

/-! ## The tokens of a scan -/

/-- Every token is a lexeme that was found in the text. -/
theorem exists_lexeme?_of_mem_scan {place : Place} {token : Token}
    (h : token ∈ (scan place source).tokens) :
    ∃ c rest length, lexeme? c rest = some (token.kind, length) ∧
      token.text = String.ofList (c :: rest.take length) := by
  fun_induction scan place source with
  | case1 place => simp at h
  | case2 place c rest hgap ih => exact ih h
  | case3 place rest hgap ih => exact ih h
  | case4 place c rest hgap hcomment hnone => simp at h
  | case5 place c rest hgap hcomment kind length hsome text later ih =>
    rcases List.mem_cons.mp h with rfl | hlater
    · exact ⟨c, rest, length, hsome, rfl⟩
    · exact ih hlater

theorem kind_ne_endOfFile_of_mem_scan {place : Place} {token : Token}
    (h : token ∈ (scan place source).tokens) : token.kind ≠ .endOfFile := by
  obtain ⟨c, rest, length, hlexeme, -⟩ := exists_lexeme?_of_mem_scan h
  exact kind_ne_endOfFile_of_lexeme? hlexeme

/-! ## Two texts with a line end between them -/

/-- A text that is scanned to its end is scanned in the same way when a line end follows, and the
text after the line end is scanned as if it stood alone. -/
theorem scan_append_newline (place : Place) (source later : List Char)
    (h : (scan place source).rest = []) :
    scan place (source ++ '\n' :: later) =
      let found := scan place source
      let more := scan (found.place.next '\n') later
      ⟨found.tokens ++ ⟨.newline, "\n", found.place⟩ :: more.tokens, more.place, more.rest⟩ := by
  fun_induction scan place source with
  | case1 place =>
    rw [List.nil_append, scan, if_neg (by decide), if_neg (by decide), lexeme?_newline]
    rfl
  | case2 place c rest hgap ih =>
    rw [List.cons_append, scan, if_pos hgap, ih h]
  | case3 place rest hgap ih =>
    have hbreak : decide ('\n' ≠ '\n') = false := by decide
    rw [List.cons_append, scan, if_neg hgap, if_pos rfl,
      Pattern.takeWhile_append_newline hbreak, Pattern.dropWhile_append_newline hbreak, ih h]
  | case4 place c rest hgap hcomment hnone => cases h
  | case5 place c rest hgap hcomment kind length hsome text more ih =>
    have hle := length_le_of_lexeme? hsome
    rw [List.cons_append, scan, if_neg hgap, if_neg hcomment, lexeme?_append_newline hsome later]
    simp only [List.take_append_of_le_length hle, List.drop_append_of_le_length hle]
    rw [ih h]
    rfl

theorem scan_start_append_newline (h : (scan Place.start source).rest = []) (later : List Char) :
    scan Place.start (source ++ '\n' :: later) =
      ⟨(scan Place.start source).tokens ++ ⟨.newline, "\n", (scan Place.start source).place⟩ ::
          (scan Place.start later).tokens.map (Token.down (scan Place.start source).place.line),
        (scan Place.start later).place.down (scan Place.start source).place.line,
        (scan Place.start later).rest⟩ := by
  have hnext : (scan Place.start source).place.next '\n' =
      Place.start.down (scan Place.start source).place.line := by
    simp only [Place.next, Place.start, Place.down, if_true, Place.mk.injEq, and_true]
    omega
  rw [scan_append_newline _ _ _ h]
  dsimp only
  rw [hnext, scan_down]

theorem Scan.result_eq_ok_iff {found : Scan} {tokens : List Token} :
    found.result = .ok tokens ↔
      found.rest = [] ∧ tokens = found.tokens ++ [⟨.endOfFile, "", found.place⟩] := by
  unfold Scan.result
  cases found.rest with
  | nil => simp [eq_comm]
  | cons c rest => simp

theorem Scan.result_eq_error_iff {found : Scan} {error : LexError} :
    found.result = .error error ↔
      ∃ rest, found.rest = error.char :: rest ∧ found.place = error.place := by
  unfold Scan.result
  obtain ⟨char, place⟩ := error
  cases found.rest with
  | nil => simp
  | cons c rest => simp

theorem toList_append_newline (first second : String) :
    (first ++ "\n" ++ second).toList = first.toList ++ '\n' :: second.toList := by
  simp

/-- The tokens of two texts with a line end between them: those of the first without its end, the
line end, and those of the second further down. -/
theorem tokenize_append_newline {first second : String} {firstTokens secondTokens : List Token}
    (hfirst : tokenize first = .ok firstTokens) (hsecond : tokenize second = .ok secondTokens) :
    ∃ body place, (∀ token ∈ body, token.kind ≠ .endOfFile) ∧
      firstTokens = body ++ [⟨.endOfFile, "", place⟩] ∧
      tokenize (first ++ "\n" ++ second) =
        .ok (body ++ ⟨.newline, "\n", place⟩ :: secondTokens.map (Token.down place.line)) := by
  obtain ⟨hrest, rfl⟩ := Scan.result_eq_ok_iff.mp hfirst
  obtain ⟨hrest', rfl⟩ := Scan.result_eq_ok_iff.mp hsecond
  refine ⟨_, _, fun token => kind_ne_endOfFile_of_mem_scan, rfl, ?_⟩
  rw [tokenize, Scan.result_eq_ok_iff, toList_append_newline, scan_start_append_newline hrest]
  refine ⟨hrest', ?_⟩
  simp [Token.down]

end ScriptStudio
