import Mathlib.Data.List.Basic
import Mathlib.Data.List.TakeWhile
import ScriptStudio.Editor.Highlight

/-!
# Highlighted lexemes

What is highlighted is a lexeme of its kind, and the highlights of a line are read off the line:
each one stands in the columns of its lexeme.

* `HighlightKind.IsLexeme`: the lexemes of a kind.
* `Highlight.exists_of_lexeme?`: what is found at the front of a text is one of them.
* `Highlight.StandsIn`: a highlight and its lexeme in a line.
* `Highlight.exists_standsIn`: every highlight of a line stands in it.
-/

namespace ScriptStudio

namespace HighlightKind

open Highlight

/-- What a lexeme of the kind looks like. -/
def IsLexeme (lexeme : List Char) : HighlightKind → Prop
  | .comment => ∃ text, lexeme = '#' :: text
  | .string => ∃ quote inner, (quote = '"' ∨ quote = '\'') ∧ quote ∉ inner ∧
      lexeme = quote :: (inner ++ [quote])
  | .number => ∃ whole fraction, whole ≠ [] ∧ (∀ c ∈ whole, Text.isDecimal c = true) ∧
      (∀ c ∈ fraction, Text.isDecimal c = true) ∧
      (lexeme = whole ∨ lexeme = whole ++ '.' :: fraction)
  | .boolean => String.ofList lexeme ∈ booleanWords
  | .logical => String.ofList lexeme ∈ logicalWords
  | .input => String.ofList lexeme ∈ ["input"]
  | .keyword => String.ofList lexeme ∈ keywords
  | .operator => ∃ a, (a ∈ "=!<>".toList ∧ lexeme = [a, '=']) ∨
      (a ∈ "+-*/%=<>".toList ∧ lexeme = [a])
  | .delimiter => ∃ a ∈ "()\x7b\x7d".toList, lexeme = [a]

/-- The length of a lexeme of the kind at the front of a text. -/
def length? (afterWord : Bool) (chars : List Char) : HighlightKind → Option Nat
  | .comment => commentLength? chars
  | .string => stringLength? chars
  | .number => numberLength? afterWord chars
  | .boolean => wordLength? afterWord booleanWords chars
  | .logical => wordLength? afterWord logicalWords chars
  | .input => wordLength? afterWord ["input"] chars
  | .keyword => wordLength? afterWord keywords chars
  | .operator => operatorLength? chars
  | .delimiter => delimiterLength? chars

theorem IsLexeme.ne_nil {kind : HighlightKind} {lexeme : List Char} (h : kind.IsLexeme lexeme) :
    lexeme ≠ [] := by
  rintro rfl
  cases kind with
  | comment => simp [IsLexeme] at h
  | string => simp [IsLexeme] at h
  | number =>
    obtain ⟨whole, fraction, hne, -, -, hwhole | hpoint⟩ := h
    · exact hne hwhole.symm
    · simp at hpoint
  | boolean | logical | input | keyword =>
    simp [IsLexeme, booleanWords, logicalWords, keywords] at h
  | operator => simp [IsLexeme] at h
  | delimiter => simp [IsLexeme] at h

end HighlightKind

namespace Highlight

variable {afterWord : Bool} {chars : List Char} {length : Nat} {kind : HighlightKind}

/-! ## What is found -/

theorem findSome?_cons_orElse {α β : Type} (f : α → Option β) (a : α) (rest : List α) :
    (a :: rest).findSome? f = (f a <|> rest.findSome? f) := by
  rw [List.findSome?_cons]
  cases f a <;> rfl

/-- The kinds are tried in their order. -/
theorem lexeme?_eq (afterWord : Bool) (chars : List Char) :
    lexeme? afterWord chars = HighlightKind.all.findSome? fun kind =>
      (kind.length? afterWord chars).map (kind, ·) := by
  have hlast : ∀ found : Option (HighlightKind × Nat), (found <|> none) = found := by
    rintro (_ | _) <;> rfl
  simp only [HighlightKind.all, findSome?_cons_orElse, List.findSome?_nil, hlast]
  rfl

theorem exists_of_commentLength? (h : commentLength? chars = some length) :
    ∃ text, chars = '#' :: text ∧ length = chars.length := by
  unfold commentLength? at h
  split at h
  · next text =>
    cases h
    exact ⟨text, rfl, rfl⟩
  · cases h

/-- What stands up to the first quote. -/
theorem takeWhile_quote {quote : Char} {inner : List Char} (hinner : quote ∉ inner)
    (later : List Char) : (inner ++ quote :: later).takeWhile (· != quote) = inner := by
  have hbefore : ∀ c ∈ inner, (c != quote) = true := by
    intro c hc
    rw [bne_iff_ne]
    rintro rfl
    exact hinner hc
  rw [List.takeWhile_append_of_pos hbefore, List.takeWhile_cons_of_neg (by simp), List.append_nil]

theorem exists_of_stringLength? (h : stringLength? chars = some length) :
    ∃ quote inner later, (quote = '"' ∨ quote = '\'') ∧ quote ∉ inner ∧
      chars = quote :: (inner ++ quote :: later) ∧ length = inner.length + 2 := by
  cases chars with
  | nil => cases h
  | cons quote rest =>
    rw [stringLength?] at h
    by_cases hquote : (quote == '"' || quote == '\'') = true
    · rw [if_pos hquote] at h
      dsimp only at h
      by_cases hclosed : (rest.takeWhile (· != quote)).length < rest.length
      · rw [if_pos hclosed] at h
        cases h
        obtain ⟨inner, later, rfl, hinner⟩ : ∃ inner later, rest = inner ++ quote :: later ∧
            quote ∉ inner := by
          have hmem : quote ∈ rest := by
            by_contra hnot
            refine hclosed.ne (congrArg List.length (List.takeWhile_eq_self_iff.mpr ?_))
            exact fun c hc => bne_iff_ne.mpr fun heq => hnot (heq ▸ hc)
          exact List.eq_append_cons_of_mem hmem
        refine ⟨quote, inner, later, ?_, hinner, rfl, by rw [takeWhile_quote hinner]⟩
        simpa using hquote
      · rw [if_neg hclosed] at h
        cases h
    · rw [if_neg hquote] at h
      cases h

theorem stringLength?_quote {quote : Char} (hquote : quote = '"' ∨ quote = '\'')
    {inner : List Char} (hinner : quote ∉ inner) (later : List Char) :
    stringLength? (quote :: (inner ++ quote :: later)) = some (inner.length + 2) := by
  rw [stringLength?, if_pos (by simpa using hquote)]
  dsimp only
  rw [takeWhile_quote hinner, List.length_append, List.length_cons, if_pos (by omega)]

theorem exists_of_numberLength? (h : numberLength? afterWord chars = some length) :
    ∃ whole fraction lexeme later, whole ≠ [] ∧ (∀ c ∈ whole, Text.isDecimal c = true) ∧
      (∀ c ∈ fraction, Text.isDecimal c = true) ∧
      (lexeme = whole ∨ lexeme = whole ++ '.' :: fraction) ∧
      chars = lexeme ++ later ∧ length = lexeme.length := by
  have hdecimal : ∀ text : List Char, ∀ c ∈ text.takeWhile Text.isDecimal,
      Text.isDecimal c = true := fun _ _ => List.mem_takeWhile_imp
  have hsplit : chars = chars.takeWhile Text.isDecimal ++
      chars.drop (chars.takeWhile Text.isDecimal).length :=
    (List.prefix_iff_eq_append.mp (List.takeWhile_prefix _)).symm
  unfold numberLength? at h
  dsimp only at h
  split at h
  · cases h
  · next hwhole =>
    have hne : chars.takeWhile Text.isDecimal ≠ [] := by
      intro hnil
      simp [hnil] at hwhole
    split at h
    · next afterPoint hpoint =>
      rw [hpoint] at hsplit
      split at h
      · cases h
        refine ⟨_, afterPoint.takeWhile Text.isDecimal, _,
          afterPoint.dropWhile Text.isDecimal, hne, hdecimal _, hdecimal _, .inr rfl, ?_, ?_⟩
        · rw [List.append_assoc, List.cons_append, List.takeWhile_append_dropWhile]
          exact hsplit
        · rw [List.length_append, List.length_cons]
          omega
      · split at h
        · cases h
          refine ⟨_, [], _, afterPoint, hne, hdecimal _, by simp, .inr rfl, ?_, ?_⟩
          · rw [List.append_assoc]
            exact hsplit
          · rw [List.length_append, List.length_singleton]
        · cases h
          exact ⟨_, [], _, _, hne, hdecimal _, by simp, .inl rfl, hsplit, rfl⟩
    · split at h
      · cases h
      · cases h
        exact ⟨_, [], _, _, hne, hdecimal _, by simp, .inl rfl, hsplit, rfl⟩

theorem exists_of_wordLength? {words : List String}
    (h : wordLength? afterWord words chars = some length) :
    ∃ word later, String.ofList word ∈ words ∧ chars = word ++ later ∧ length = word.length := by
  unfold wordLength? at h
  dsimp only at h
  split at h
  · next hword =>
    cases h
    rw [Bool.and_eq_true, List.contains_iff_mem] at hword
    exact ⟨_, _, hword.2, List.takeWhile_append_dropWhile.symm, rfl⟩
  · cases h

theorem exists_of_operatorLength? (h : operatorLength? chars = some length) :
    ∃ a lexeme later, ((a ∈ "=!<>".toList ∧ lexeme = [a, '=']) ∨
      (a ∈ "+-*/%=<>".toList ∧ lexeme = [a])) ∧ chars = lexeme ++ later ∧
      length = lexeme.length := by
  have hsingle : ∀ {a : Char} {rest : List Char}, operatorLength?.single a = some length →
      ∃ b lexeme later, ((b ∈ "=!<>".toList ∧ lexeme = [b, '=']) ∨
        (b ∈ "+-*/%=<>".toList ∧ lexeme = [b])) ∧ a :: rest = lexeme ++ later ∧
        length = lexeme.length := by
    intro a rest h
    unfold operatorLength?.single at h
    split at h
    · next ha =>
      cases h
      exact ⟨a, [a], rest, .inr ⟨List.contains_iff_mem.mp ha, rfl⟩, rfl, rfl⟩
    · cases h
  unfold operatorLength? at h
  split at h
  · next a rest =>
    split at h
    · next ha =>
      cases h
      exact ⟨a, [a, '='], rest, .inl ⟨List.contains_iff_mem.mp ha, rfl⟩, rfl, rfl⟩
    · exact hsingle h
  · exact hsingle h
  · cases h

theorem exists_of_delimiterLength? (h : delimiterLength? chars = some length) :
    ∃ a later, a ∈ "()\x7b\x7d".toList ∧ chars = a :: later ∧ length = 1 := by
  unfold delimiterLength? at h
  split at h
  · split at h
    · next hc =>
      cases h
      exact ⟨_, _, List.contains_iff_mem.mp hc, rfl, rfl⟩
    · cases h
  · cases h

theorem length?_of_lexeme? (h : lexeme? afterWord chars = some (kind, length)) :
    kind.length? afterWord chars = some length := by
  rw [lexeme?_eq] at h
  obtain ⟨tried, -, hfound⟩ := List.exists_of_findSome?_eq_some h
  obtain ⟨found, hlength, hpair⟩ := Option.map_eq_some_iff.mp hfound
  cases hpair
  exact hlength

theorem length?_eq_none (h : lexeme? afterWord chars = none) (kind : HighlightKind) :
    kind.length? afterWord chars = none := by
  rw [lexeme?_eq, List.findSome?_eq_none_iff] at h
  have hkind : kind ∈ HighlightKind.all := by
    cases kind <;> decide
  exact Option.map_eq_none_iff.mp (h kind hkind)

/-- What is found at the front of a text is a lexeme of its kind. -/
theorem exists_of_lexeme? (h : lexeme? afterWord chars = some (kind, length)) :
    ∃ lexeme later, chars = lexeme ++ later ∧ length = lexeme.length ∧ kind.IsLexeme lexeme := by
  have hlength := length?_of_lexeme? h
  cases kind with
  | comment =>
    obtain ⟨text, rfl, hlength⟩ := exists_of_commentLength? hlength
    exact ⟨_, [], (List.append_nil _).symm, hlength, text, rfl⟩
  | string =>
    obtain ⟨quote, inner, later, hquote, hinner, rfl, rfl⟩ := exists_of_stringLength? hlength
    exact ⟨quote :: (inner ++ [quote]), later, by simp, by simp, quote, inner, hquote, hinner, rfl⟩
  | number =>
    obtain ⟨whole, fraction, lexeme, later, hne, hwhole, hfraction, hlexeme, hchars, hlength⟩ :=
      exists_of_numberLength? hlength
    exact ⟨lexeme, later, hchars, hlength, whole, fraction, hne, hwhole, hfraction, hlexeme⟩
  | boolean | logical | input | keyword =>
    obtain ⟨word, later, hword, hchars, hlength⟩ := exists_of_wordLength? hlength
    exact ⟨word, later, hchars, hlength, hword⟩
  | operator =>
    obtain ⟨a, lexeme, later, hlexeme, hchars, hlength⟩ := exists_of_operatorLength? hlength
    exact ⟨lexeme, later, hchars, hlength, a, hlexeme⟩
  | delimiter =>
    obtain ⟨a, later, ha, hchars, hlength⟩ := exists_of_delimiterLength? hlength
    exact ⟨[a], later, hchars, hlength, a, ha, rfl⟩

/-! ## The highlights of a line -/

/-- How many characters are passed where the line goes on. -/
def step (afterWord : Bool) (chars : List Char) : Nat :=
  match lexeme? afterWord chars with
  | some (_, length) => length
  | none => plainLength chars

theorem step_spec (afterWord : Bool) (c : Char) (rest : List Char) :
    0 < step afterWord (c :: rest) ∧ step afterWord (c :: rest) ≤ rest.length + 1 := by
  rw [step]
  cases hfound : lexeme? afterWord (c :: rest) with
  | some found =>
    obtain ⟨lexeme, later, hchars, hlength, hlexeme⟩ := exists_of_lexeme? hfound
    have hpos := List.length_pos_iff.mpr hlexeme.ne_nil
    have hsum := congrArg List.length hchars
    rw [List.length_append, List.length_cons] at hsum
    dsimp only
    omega
  | none =>
    have hname := (List.takeWhile_sublist (p := Text.continuesName) (l := rest)).length_le
    rw [plainLength]
    dsimp only
    split <;> omega

/-- A line is highlighted step by step. -/
theorem lineFrom_cons (number fuel column : Nat) (afterWord : Bool) (c : Char) (rest : List Char) :
    lineFrom number (fuel + 1) column afterWord (c :: rest) =
      ((lexeme? afterWord (c :: rest)).map fun found =>
          ⟨found.1, number, column, column + found.2⟩).toList ++
        lineFrom number fuel (column + step afterWord (c :: rest))
          (endsWord (c :: rest) (step afterWord (c :: rest)))
          ((c :: rest).drop (step afterWord (c :: rest))) := by
  rw [lineFrom, step]
  cases lexeme? afterWord (c :: rest) with
  | none => rfl
  | some found => rfl

/-- The highlight stands in a line behind `before`, and `later` follows on its lexeme. -/
structure StandsIn (highlight : Highlight) (before lexeme later : List Char) : Prop where
  start_eq : highlight.start = before.length
  stop_eq : highlight.stop = before.length + lexeme.length
  found : lexeme? (endsWord (before ++ (lexeme ++ later)) before.length) (lexeme ++ later) =
    some (highlight.kind, lexeme.length)

variable {highlight : Highlight}

theorem StandsIn.isLexeme {before lexeme later : List Char}
    (h : highlight.StandsIn before lexeme later) : highlight.kind.IsLexeme lexeme := by
  obtain ⟨found, rest, hchars, hlength, hlexeme⟩ := exists_of_lexeme? h.found
  rwa [(List.append_inj hchars hlength).1]

theorem endsWord_append (passed : List Char) (hpos : 0 < length) (hne : chars ≠ []) :
    endsWord (passed ++ chars) (passed.length + length) = endsWord chars length := by
  have htake : chars.take length ≠ [] := by
    rw [Ne, List.take_eq_nil_iff, not_or]
    exact ⟨hpos.ne', hne⟩
  rw [endsWord, endsWord, List.take_length_add_append, List.getLast?_append_of_ne_nil _ htake]

theorem exists_standsIn_of_mem_lineFrom {number fuel : Nat} {passed : List Char}
    (h : highlight ∈ lineFrom number fuel passed.length
      (endsWord (passed ++ chars) passed.length) chars) :
    highlight.line = number ∧ ∃ before lexeme later,
      passed ++ chars = before ++ (lexeme ++ later) ∧ highlight.StandsIn before lexeme later := by
  induction fuel generalizing passed chars with
  | zero => cases h
  | succ fuel ih =>
    cases chars with
    | nil => cases h
    | cons c rest =>
      rw [lineFrom_cons, List.mem_append] at h
      rcases h with hfirst | hrest
      · obtain ⟨found, hfound, rfl⟩ := Option.map_eq_some_iff.mp (Option.mem_toList.mp hfirst)
        obtain ⟨lexeme, later, hchars, hlength, -⟩ := exists_of_lexeme? hfound
        refine ⟨rfl, passed, lexeme, later, by rw [hchars], rfl, by rw [hlength], ?_⟩
        rw [← hchars, hfound, ← hlength]
      · -- What the step passes over goes to the part of the line that is passed already.
        obtain ⟨hpos, hle⟩ := step_spec (endsWord (passed ++ c :: rest) passed.length) c rest
        generalize step (endsWord (passed ++ c :: rest) passed.length) (c :: rest) = length
          at hrest hpos hle
        have hpassed : (passed ++ (c :: rest).take length).length = passed.length + length := by
          rw [List.length_append, List.length_take_of_le hle]
        have hsame : passed ++ (c :: rest).take length ++ (c :: rest).drop length =
            passed ++ c :: rest := by
          rw [List.append_assoc, List.take_append_drop]
        rw [← hsame]
        apply ih
        rwa [hpassed, hsame, endsWord_append passed hpos (List.cons_ne_nil c rest)]

/-- Every highlight of a line stands in it. -/
theorem exists_standsIn {number : Nat} {line : List Char} (h : highlight ∈ ofLine number line) :
    highlight.line = number ∧ ∃ before lexeme later,
      line = before ++ (lexeme ++ later) ∧ highlight.StandsIn before lexeme later := by
  have hfrom : highlight ∈ lineFrom number (line.length + 1) ([] : List Char).length
      (endsWord ([] ++ line) ([] : List Char).length) line := h
  exact exists_standsIn_of_mem_lineFrom hfrom

end Highlight

end ScriptStudio
