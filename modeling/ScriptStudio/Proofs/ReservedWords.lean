import ScriptStudio.Proofs.Lexemes

/-!
# Where a reserved word is read as a name

Three notions of a word meet at the end of a reserved word. The word itself ends where the word
characters of all scripts end, a name ends where those of ASCII end, and a number begins with a
decimal digit of any script. So a digit beyond ASCII right behind a reserved word keeps it from
being one: the word is taken for a name, and the digit begins the next token. Nothing else does,
because no other token begins with a word character beyond ASCII.

* `Laid.split`, `Laid.exists_head`: a token in a layout, and the token at the very front of one.
* `kind_of_readsReserved`: the kind of a lexeme that reads as a reserved word is decided by the
  character behind it.
* `reserved_or_touched`: the exact condition for the tokens of a source.
-/

namespace ScriptStudio

/-! ## Tokens in a layout -/

variable {c : Char} {later : List Char}

theorem Gap.isGap_or_eq {gap : List Char} (h : Gap (c :: gap) later) :
    isGap c = true ∨ c = '#' := by
  cases h with
  | blank hc _ => rcases hc with rfl | rfl | rfl <;> exact .inl rfl
  | comment _ _ => exact .inr rfl

theorem Leads.exists_lexeme? {kind : TokenKind} {lexeme : List Char}
    (h : Leads kind lexeme (lexeme ++ later)) :
    ∃ c word, lexeme = c :: word ∧ lexeme? c (word ++ later) = some (kind, word.length) := by
  obtain ⟨c, rest, length, htext, hfound, rfl⟩ := h
  have hle := length_le_of_lexeme? hfound
  have hrest : rest.take length ++ later = rest := (List.cons.inj htext).2
  refine ⟨c, _, rfl, ?_⟩
  rw [hrest, hfound, List.length_take_of_le hle]

namespace Laid

variable {before text rest : List Char} {tokens later : List Token} {token : Token}

/-- A layout, cut behind one of its tokens. -/
theorem split (h : Laid before (tokens ++ token :: later) text rest) :
    ∃ front behind, token.place = Place.endOf front ∧
      Leads token.kind token.text.toList (token.text.toList ++ (behind ++ rest)) ∧
      Laid (front ++ token.text.toList) later behind rest := by
  induction tokens generalizing before text with
  | nil =>
    cases h with
    | token hgap hplace hleads hlater =>
      rw [← List.append_assoc] at hlater
      exact ⟨_, _, hplace, hleads, hlater⟩
  | cons first tokens ih =>
    cases h with
    | token hgap hplace hleads hlater => exact ih hlater

/-- A character that begins no gap begins the first token. -/
theorem exists_head (h : Laid before tokens (c :: text) rest) (hc : ¬(isGap c = true ∨ c = '#')) :
    ∃ next others word, tokens = next :: others ∧ next.place = Place.endOf before ∧
      next.text.toList = c :: word ∧
      ∃ later, lexeme? c (word ++ later) = some (next.kind, word.length) := by
  generalize hwhole : c :: text = whole at h
  cases h with
  | gap hgap =>
    subst hwhole
    exact absurd hgap.isGap_or_eq hc
  | @token _ gap _ _ next _ hgap hplace hleads hlater =>
    obtain ⟨first, word, hword, hfound⟩ := hleads.exists_lexeme?
    cases gap with
    | cons blank gap =>
      obtain ⟨rfl, -⟩ := List.cons.inj hwhole
      exact absurd hgap.isGap_or_eq hc
    | nil =>
      rw [List.append_nil] at hplace
      rw [List.nil_append, hword, List.cons_append] at hwhole
      obtain ⟨rfl, -⟩ := List.cons.inj hwhole
      exact ⟨next, _, word, rfl, hplace, hword, _, hfound⟩

end Laid

/-- A text that goes on ends further on. -/
theorem Place.eq_nil_of_endOf_append {text more : List Char}
    (h : Place.endOf (text ++ more) = Place.endOf text) : more = [] := by
  simp only [Place.endOf, Place.mk.injEq, List.count_append, List.reverse_append] at h
  obtain ⟨hline, hcolumn⟩ := h
  have hmore : ∀ c ∈ more.reverse, decide (c ≠ '\n') = true := by
    have hnone : '\n' ∉ more := List.count_eq_zero.mp (by omega)
    intro c hc
    rw [decide_eq_true_iff]
    rintro rfl
    exact hnone (List.mem_reverse.mp hc)
  rw [List.takeWhile_append_of_pos hmore, List.length_append, List.length_reverse] at hcolumn
  exact List.eq_nil_of_length_eq_zero (by omega)

/-! ## Word characters beyond ASCII -/

theorem Text.isWord_of_isDecimal (h : Text.isDecimal c = true) : Text.isWord c = true := by
  -- every run of ten digits beyond ASCII lies in one range of the numerals
  have hruns : ∀ start ∈ decimalZeros, start + 9 < 128 ∨
      ∃ range ∈ numeralRanges, range.1 ≤ start ∧ start + 9 ≤ range.2 := by
    decide +kernel
  obtain ⟨value, hvalue⟩ := Option.isSome_iff_exists.mp h
  unfold digitValue? at hvalue
  unfold isWord
  split at hvalue
  · rename_i hascii
    simp only [Option.ite_none_right_eq_some] at hvalue
    simp [hascii, continuesName, Char.isAlphanum, hvalue.1]
  · rename_i hascii
    obtain ⟨start, hfound, -⟩ := Option.map_eq_some_iff.mp hvalue
    have hrun := List.find?_some hfound
    simp only [Bool.and_eq_true, decide_eq_true_eq] at hrun
    obtain hlow | ⟨range, hrange, hstart, hend⟩ :=
      hruns start (List.mem_of_find?_eq_some hfound)
    · omega
    · have hnumeral : inRanges numeralRanges c = true := by
        rw [inRanges, List.any_eq_true]
        refine ⟨range, hrange, ?_⟩
        simp only [Bool.and_eq_true, decide_eq_true_eq]
        omega
      simp [hascii, hnumeral]

/-- Beyond ASCII only digits begin a lexeme. -/
theorem lexeme?_eq_none_of_foreign (hforeign : 128 ≤ c.toNat) (hdigit : ¬Text.isDecimal c = true)
    (rest : List Char) : lexeme? c rest = none := by
  have hstart : ¬Text.startsName c = true := by
    intro hstart
    have hletter := Pattern.continuesName_of_startsName hstart
    have hascii := Pattern.toNat_lt_of_continuesName hletter
    omega
  have hne : ∀ other : Char, other.toNat < 128 → other ≠ c := by
    rintro other hother rfl
    omega
  have hsymbols : ∀ entry ∈ symbols, entry.1.toList.head?.all (·.toNat < 128) = true := by decide
  rw [lexeme?_of_symbol hdigit (hne '"' (by decide)).symm (hne '\'' (by decide)).symm hstart,
    List.findSome?_eq_none_iff]
  intro entry hentry
  have hfirst := hsymbols entry hentry
  cases hword : entry.1.toList with
  | nil => rfl
  | cons first more =>
    rw [hword] at hfirst
    have hfirst : first ≠ c := hne first (by simpa using hfirst)
    simp [Pattern.spelled, hfirst]

/-! ## Reserved words -/

/-- A lexeme that reads as a reserved word is that word if no word character follows it. Otherwise
it is a name, and what follows is a word character beyond ASCII. -/
theorem kind_of_readsReserved {word : String} {kind found : TokenKind} {more : List Char}
    (hreserved : (word, kind) ∈ reservedWords) (hword : word.toList = c :: more)
    (hfound : lexeme? c (more ++ later) = some (found, more.length)) :
    (found = kind ∧ Pattern.atBoundary later = true) ∨
      (found = .identifier ∧ ∃ d behind, later = d :: behind ∧ Text.isWord d = true ∧
        128 ≤ d.toNat) := by
  have hname : Pattern.IsName (c :: more) :=
    hword ▸ Pattern.isName_of_mem_reservedWords hreserved
  have hwords := (List.forall_mem_cons.mp hname.isWord).2
  obtain ⟨hstart, hletters⟩ := Pattern.isName_cons_iff.mp hname
  rw [lexeme?_of_startsName hstart, List.takeWhile_append_of_pos hwords,
    List.takeWhile_append_of_pos hletters] at hfound
  cases hrun : later.takeWhile Text.isWord with
  | nil =>
    rw [hrun, List.append_nil, ← hword, String.ofList_toList, lookup_of_mem_reservedWords hreserved]
      at hfound
    have hkind : kind = found := by simpa using hfound
    refine .inl ⟨hkind.symm, ?_⟩
    rw [Pattern.atBoundary_eq, hrun]
    rfl
  | cons d run =>
    rw [hrun] at hfound
    cases later with
    | nil => cases hrun
    | cons next behind =>
      have hnext : Text.isWord next = true := by
        by_contra hnext
        rw [List.takeWhile_cons_of_neg hnext] at hrun
        cases hrun
      cases hlonger : reservedWords.lookup (String.ofList (c :: (more ++ d :: run))) with
      | some other =>
        -- a longer reserved word would have been the lexeme
        rw [hlonger] at hfound
        simp at hfound
      | none =>
        rw [hlonger] at hfound
        simp only [Option.map_none, Option.none_or, Option.some.injEq, Prod.mk.injEq,
          List.length_append, Nat.add_eq_left, List.length_eq_zero_iff] at hfound
        refine .inr ⟨hfound.1.symm, next, behind, rfl, hnext, ?_⟩
        by_contra hascii
        rw [Pattern.isWord_eq_continuesName (by omega)] at hnext
        rw [List.takeWhile_cons_of_pos hnext] at hfound
        cases hfound.2

/-- Right behind the token there begins a number, with a digit that is not of ASCII. -/
def TouchedByNumber (token : Token) (later : List Token) : Prop :=
  ∃ next others digit digits, later = next :: others ∧ next.kind = .number ∧
    next.place = token.place.advance token.text.toList ∧ next.text.toList = digit :: digits ∧
    128 ≤ digit.toNat

theorem touchedByNumber_concat {token last : Token} {later : List Token}
    (hlast : last.kind ≠ .number) :
    TouchedByNumber token (later ++ [last]) ↔ TouchedByNumber token later := by
  unfold TouchedByNumber
  cases later with
  | nil => simp [hlast]
  | cons next others => simp

theorem isDecimal_of_lexeme?_number {rest : List Char} {length : Nat}
    (h : lexeme? c rest = some (.number, length)) : Text.isDecimal c = true := by
  obtain ⟨pattern, hpattern, hkind, htail⟩ := exists_pattern_of_lexeme? h
  rw [Pattern.tail?_of_number hpattern hkind] at htail
  by_contra hdigit
  rw [Pattern.numeral, if_neg hdigit] at htail
  cases htail

namespace Laid

variable {front behind : List Char} {token : Token} {later : List Token}

theorem touchedByNumber {d : Char} (h : Laid (front ++ token.text.toList) later (d :: behind) [])
    (hplace : token.place = Place.endOf front) (hword : Text.isWord d = true)
    (hforeign : 128 ≤ d.toNat) : TouchedByNumber token later := by
  have hgap : ¬(isGap d = true ∨ d = '#') := by
    rintro (hgap | rfl)
    · rcases eq_or_of_isGap hgap with rfl | rfl | rfl <;> exact absurd hforeign (by decide)
    · exact absurd hforeign (by decide)
  obtain ⟨next, others, digits, rfl, hnext, htext, rest, hfound⟩ := h.exists_head hgap
  refine ⟨next, others, d, digits, rfl, ?_, ?_, htext, hforeign⟩
  · by_cases hdigit : Text.isDecimal d = true
    · rw [lexeme?_of_isDecimal hdigit] at hfound
      obtain ⟨length, -, hpair⟩ := Option.map_eq_some_iff.mp hfound
      exact (Prod.mk.inj hpair).1.symm
    · rw [lexeme?_eq_none_of_foreign hforeign hdigit] at hfound
      cases hfound
  · rw [hnext, hplace, Place.advance_endOf]

theorem not_atBoundary (h : Laid (front ++ token.text.toList) later behind [])
    (hplace : token.place = Place.endOf front) (htouched : TouchedByNumber token later) :
    Pattern.atBoundary behind = false := by
  obtain ⟨next, others, digit, digits, rfl, hkind, hnext, htext, -⟩ := htouched
  cases h with
  | @token _ gap text _ _ _ hgap hplace' hleads hlater =>
    have hsame : Place.endOf (front ++ token.text.toList ++ gap) =
        Place.endOf (front ++ token.text.toList) := by
      rw [← hplace', hnext, hplace, Place.advance_endOf]
    obtain rfl := Place.eq_nil_of_endOf_append hsame
    obtain ⟨c, word, hword, hfound⟩ := hleads.exists_lexeme?
    rw [hkind] at hfound
    have hc := Text.isWord_of_isDecimal (isDecimal_of_lexeme?_number hfound)
    rw [List.nil_append, hword, List.cons_append, Pattern.atBoundary, hc]
    rfl

end Laid

/-- A token that reads as a reserved word is that word, except where a number begins right behind it
with a digit that is not of ASCII: there, and only there, it is an identifier. -/
theorem reserved_or_touched {source : String} {before later : List Token} {token : Token}
    (h : tokenize source = .ok (before ++ token :: later))
    (hword : token.text ∈ reservedWords.map Prod.fst) :
    (token.kind = .identifier ↔ TouchedByNumber token later) ∧
      (token.kind ≠ .identifier → (token.text, token.kind) ∈ reservedWords) := by
  obtain ⟨hrest, htokens⟩ := Scan.result_eq_ok_iff.mp h
  obtain ⟨hlaid, -⟩ := scan_laid_whole hrest
  obtain ⟨⟨word, kind⟩, hreserved, htext⟩ := List.mem_map.mp hword
  have hname := Pattern.isName_of_mem_reservedWords hreserved
  -- The end-of-file token reads as no word, so it comes later.
  rcases List.eq_nil_or_concat later with rfl | ⟨others, last, rfl⟩
  · have hlast := List.append_inj_right' htokens rfl
    obtain ⟨first, more, hfirst, -⟩ := hname
    rw [htext, (List.cons.inj hlast).1] at hfirst
    cases hfirst
  · rw [List.concat_eq_append, ← List.cons_append, ← List.append_assoc] at htokens
    obtain ⟨hbody, hlast⟩ := List.append_inj' htokens rfl
    obtain rfl := (List.cons.inj hlast).1
    have hend : TokenKind.endOfFile ≠ .number := by decide
    rw [List.concat_eq_append, touchedByNumber_concat hend]
    rw [← hbody] at hlaid
    obtain ⟨front, behind, hplace, hleads, hlater⟩ := hlaid.split
    rw [List.append_nil] at hleads
    obtain ⟨c, more, hspelled, hfound⟩ := hleads.exists_lexeme?
    have hspelled' : word.toList = c :: more := by rw [← hspelled, ← htext]
    obtain ⟨hkind, hboundary⟩ | ⟨hkind, d, rest, rfl, hd, hforeign⟩ :=
      kind_of_readsReserved hreserved hspelled' hfound
    · have hkinds : ∀ entry ∈ reservedWords, entry.2 ≠ .identifier := by decide
      have hother : token.kind ≠ .identifier := hkind ▸ hkinds _ hreserved
      refine ⟨⟨fun hidentifier => absurd hidentifier hother, fun htouched => ?_⟩, fun _ => ?_⟩
      · rw [hlater.not_atBoundary hplace htouched] at hboundary
        cases hboundary
      · rw [hkind, ← htext]
        exact hreserved
    · have htouched := hlater.touchedByNumber hplace hd hforeign
      exact ⟨⟨fun _ => htouched, fun _ => hkind⟩, fun hother => absurd hkind hother⟩

/-- A reserved word in front of a digit that is not of ASCII, and one in front of a blank. -/
def foreignDigit : String := "say٣ or 3"

theorem tokenize_foreignDigit :
    tokenize foreignDigit = .ok
      [⟨.identifier, "say", ⟨1, 1⟩⟩, ⟨.number, "٣", ⟨1, 4⟩⟩, ⟨.orKw, "or", ⟨1, 6⟩⟩,
        ⟨.number, "3", ⟨1, 9⟩⟩, ⟨.endOfFile, "", ⟨1, 10⟩⟩] := by
  decide +kernel

/-- The first word is an identifier. -/
theorem identifier_foreignDigit :
    ∃ tokens, tokenize foreignDigit = .ok tokens ∧
      ∃ token ∈ tokens, token.kind = .identifier ∧
        token.text ∈ reservedWords.map Prod.fst :=
  ⟨_, tokenize_foreignDigit, ⟨.identifier, "say", ⟨1, 1⟩⟩, by simp, rfl, by decide⟩

/-- The first word is touched by a number, and the second is not. -/
theorem reserved_or_touched_foreignDigit :
    TouchedByNumber ⟨.identifier, "say", ⟨1, 1⟩⟩
        [⟨.number, "٣", ⟨1, 4⟩⟩, ⟨.orKw, "or", ⟨1, 6⟩⟩, ⟨.number, "3", ⟨1, 9⟩⟩,
          ⟨.endOfFile, "", ⟨1, 10⟩⟩] ∧
      ¬TouchedByNumber ⟨.orKw, "or", ⟨1, 6⟩⟩
        [⟨.number, "3", ⟨1, 9⟩⟩, ⟨.endOfFile, "", ⟨1, 10⟩⟩] := by
  have hsay : tokenize foreignDigit = .ok ([] ++ _ :: _) := tokenize_foreignDigit
  have hor : tokenize foreignDigit = .ok ([_, _] ++ _ :: _) := tokenize_foreignDigit
  refine ⟨(reserved_or_touched hsay (by decide)).1.mp rfl, fun htouched => ?_⟩
  cases (reserved_or_touched hor (by decide)).1.mpr htouched

end ScriptStudio
