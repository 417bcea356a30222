import ScriptStudio.Proofs.Lexemes

/-!
# Scanning texts that were put together

Two ways to put texts together keep what they are scanned to.

* Lexemes with blanks between them. No lexeme takes a blank with it, so scanning gives back the
  lexemes that were written (`tokenize_spaced`).
* Sources with line ends between them. A source that is scanned to its end is scanned in the same
  way in front of a line end, and what follows the line end is scanned as if it stood alone, further
  down (`tokenize_lines`).
-/

namespace ScriptStudio

/-! ## Lexemes with blanks between them -/

theorem scan_lexeme {kind : TokenKind} {text later : List Char} (h : Lexeme kind text)
    (hlater : AtBlank later) (place : Place) :
    scan place (text ++ later) =
      { scan (place.advance text) later with
        tokens := ⟨kind, String.ofList text, place⟩ ::
          (scan (place.advance text) later).tokens } := by
  cases text with
  | nil => exact absurd rfl h.ne_nil
  | cons c rest =>
    have hfound := h.lexeme?_append hlater
    have hgap : ¬(isGap c = true ∨ c = '#') := by
      intro hgap
      rw [lexeme?_eq_none_of_gap hgap] at hfound
      cases hfound
    rw [not_or] at hgap
    rw [List.cons_append, scan, if_neg hgap.1, if_neg hgap.2, hfound]
    simp

/-- What a scan of lexemes with blanks between them finds. -/
theorem scan_spaced {tokens : List Token}
    (h : ∀ token ∈ tokens, Lexeme token.kind token.text.toList) (place : Place) :
    let found := scan place ([' '].intercalate (tokens.map fun token => token.text.toList))
    found.rest = [] ∧ found.tokens.map Grammar.spelling = tokens.map Grammar.spelling := by
  induction tokens generalizing place with
  | nil => simp [scan]
  | cons token tokens ih =>
    rw [List.forall_mem_cons] at h
    cases tokens with
    | nil =>
      have hnothing : AtBlank [] := by simp [AtBlank]
      have hscan := scan_lexeme h.1 hnothing place
      rw [List.append_nil] at hscan
      simp [hscan, scan, Grammar.spelling]
    | cons next tokens =>
      have hblank : isGap ' ' = true := rfl
      obtain ⟨hrest, htokens⟩ := ih h.2 ((place.advance token.text.toList).next ' ')
      simp only [List.map_cons, List.intercalate_cons_cons, List.append_assoc,
        List.singleton_append] at hrest htokens ⊢
      rw [scan_lexeme h.1 (by simp [AtBlank]), scan, if_pos hblank]
      simp [hrest, htokens, Grammar.spelling]

/-- Scanning undoes writing. Lexemes written one after the other with single blanks between them are
scanned to tokens of the same kinds and texts, and the end of the file follows. -/
theorem tokenize_spaced {tokens : List Token}
    (h : ∀ token ∈ tokens, Lexeme token.kind token.text.toList) :
    ∃ found, tokenize (" ".intercalate (tokens.map Token.text)) = .ok found ∧
      found.map Grammar.spelling = tokens.map Grammar.spelling ++ [(.endOfFile, "")] := by
  have hjoined : (" ".intercalate (tokens.map Token.text)).toList =
      [' '].intercalate (tokens.map fun token => token.text.toList) := by
    rw [String.toList_intercalate, List.map_map]
    rfl
  obtain ⟨hrest, htokens⟩ := scan_spaced h Place.start
  refine ⟨_, Scan.result_eq_ok_iff.mpr ⟨?_, rfl⟩, ?_⟩
  · rw [hjoined, hrest]
  · rw [hjoined, List.map_append, htokens]
    rfl

/-- Tokens that are easily mistaken for others: a name that goes on after a reserved word, a numeral
that ends with its point, a symbol that another one begins with, and a quote and a comment sign in
quotes of the other kind. -/
def confusable : List Token :=
  [⟨.kasKw, "kas", .start⟩, ⟨.identifier, "iffy", .start⟩, ⟨.assign, "=", .start⟩,
    ⟨.number, "٣.", .start⟩, ⟨.lessEqual, "<=", .start⟩, ⟨.string, "'\"\\'#\n'", .start⟩,
    ⟨.newline, "\n", .start⟩, ⟨.identifier, "or_", .start⟩]

theorem tokenize_spaced_confusable :
    " ".intercalate (confusable.map Token.text) = "kas iffy = ٣. <= '\"\\'#\n' \n or_" ∧
      ∃ found, tokenize (" ".intercalate (confusable.map Token.text)) = .ok found ∧
        found.map Grammar.spelling =
          confusable.map Grammar.spelling ++ [(.endOfFile, "")] := by
  have hname : Lexeme .identifier "iffy".toList :=
    .name ⟨'i', ['f', 'f', 'y'], rfl, by decide, List.all_eq_true.mp rfl⟩ (by decide)
  have hnumeral : Lexeme .number "٣.".toList :=
    .numeral ⟨'٣', [], ['.'], rfl, List.all_eq_true.mp rfl, .inr ⟨[], rfl, by simp⟩⟩
  have hquoted : Enclosed '\'' ['"', '\\', '\'', '#', '\n'] :=
    .plain (by decide) (by decide) (.escape (by decide) (.plain (by decide) (by decide)
      (.plain (by decide) (by decide) .nil)))
  have hscore : Lexeme .identifier "or_".toList :=
    .name ⟨'o', ['r', '_'], rfl, by decide, List.all_eq_true.mp rfl⟩ (by decide)
  refine ⟨by decide, tokenize_spaced ?_⟩
  simp only [confusable, List.forall_mem_cons]
  exact ⟨.spelled (by decide), hname, .spelled (by decide), hnumeral, .spelled (by decide),
    .quoted (.inr rfl) hquoted, .spelled (by decide), hscore, by simp⟩

/-! ## Sources with a line end between them -/

/-- Scanning goes line by line. If a source is scanned to its end, then in front of a line end and a
second source its tokens are the same, the line end is a token at the place where the source ends,
and the second source is scanned as if it stood alone, further down by the lines of the first: to
the same tokens, or to the same refusal. -/
theorem tokenize_lines {first : String} {tokens : List Token}
    (hfirst : tokenize first = .ok tokens) (second : String) :
    let place := Place.endOf first.toList
    let lines := 1 + first.toList.count '\n'
    tokens = tokens.dropLast ++ [⟨.endOfFile, "", place⟩] ∧
      (∀ later, tokenize second = .ok later →
        tokenize (first ++ "\n" ++ second) =
          .ok (tokens.dropLast ++ ⟨.newline, "\n", place⟩ :: later.map (Token.down lines))) ∧
      ∀ error, tokenize second = .error error →
        ∃ moved, tokenize (first ++ "\n" ++ second) = .error moved ∧
          moved.detail = error.detail ∧ moved.place = error.place.down lines := by
  obtain ⟨hrest, rfl⟩ := Scan.result_eq_ok_iff.mp hfirst
  obtain ⟨-, hplace⟩ := scan_laid_whole hrest
  have hlines : (Place.endOf first.toList).line = 1 + first.toList.count '\n' := rfl
  rw [List.dropLast_concat, hplace]
  refine ⟨rfl, ?_, ?_⟩
  · intro later hsecond
    obtain ⟨hrest', rfl⟩ := Scan.result_eq_ok_iff.mp hsecond
    rw [tokenize, Scan.result_eq_ok_iff, toList_append_newline, scan_start_append_newline hrest,
      hplace, hlines]
    refine ⟨hrest', ?_⟩
    simp [Token.down]
  · intro error hsecond
    obtain ⟨rest, hrest', hstop⟩ := Scan.result_eq_error_iff.mp hsecond
    refine ⟨⟨error.char, error.place.down _⟩, ?_, rfl, rfl⟩
    rw [tokenize, Scan.result_eq_error_iff, toList_append_newline, scan_start_append_newline hrest,
      hplace, hlines]
    exact ⟨rest, hrest', by rw [hstop]⟩

/-- A quoted text over two lines and a comment, in front of a reserved word and in front of a quote
that is never closed. -/
theorem tokenize_lines_afterComment :
    tokenize "say 'a\nb' # it's" =
        .ok [⟨.sayKw, "say", ⟨1, 1⟩⟩, ⟨.string, "'a\nb'", ⟨1, 5⟩⟩, ⟨.endOfFile, "", ⟨2, 10⟩⟩] ∧
      tokenize ("say 'a\nb' # it's" ++ "\n" ++ "not") =
        .ok [⟨.sayKw, "say", ⟨1, 1⟩⟩, ⟨.string, "'a\nb'", ⟨1, 5⟩⟩, ⟨.newline, "\n", ⟨2, 10⟩⟩,
          ⟨.notKw, "not", ⟨3, 1⟩⟩, ⟨.endOfFile, "", ⟨3, 4⟩⟩] ∧
      ∃ moved, tokenize ("say 'a\nb' # it's" ++ "\n" ++ "or 'c") = .error moved ∧
        moved.detail = "Unknown character '''" ∧ moved.place = ⟨3, 4⟩ := by
  have hfirst : tokenize "say 'a\nb' # it's" =
      .ok [⟨.sayKw, "say", ⟨1, 1⟩⟩, ⟨.string, "'a\nb'", ⟨1, 5⟩⟩, ⟨.endOfFile, "", ⟨2, 10⟩⟩] := by
    cbv
  have hword : tokenize "not" = .ok [⟨.notKw, "not", ⟨1, 1⟩⟩, ⟨.endOfFile, "", ⟨1, 4⟩⟩] := by
    cbv
  have hopen : tokenize "or 'c" = .error ⟨'\'', ⟨1, 4⟩⟩ := by
    cbv
  exact ⟨hfirst, (tokenize_lines hfirst "not").2.1 _ hword,
    (tokenize_lines hfirst "or 'c").2.2 _ hopen⟩

end ScriptStudio
