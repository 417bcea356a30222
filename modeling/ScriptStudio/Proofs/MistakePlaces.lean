import ScriptStudio.Proofs.EarliestRefusal
import ScriptStudio.Proofs.ReservedWords

/-!
# Where a mistake begins

Code that is no program is refused for a character with which no lexeme begins, or for a token. The
layout of the code says where that character or token begins, without counting lines: in front of it
stand the lexemes that were read before, with their gaps. A mistake begins at one point only, and
the place that is told about it is the place of this point.

* `Laid.cut`: a layout in front of one of its tokens.
* `Laid.scan_eq`: what is laid out is scanned to its tokens, and scanning goes on behind it.
* `Mistake.StartsAt`: where a mistake begins.
* `Mistake.exists_startsAt_iff`: there is exactly one such point, and the place is read off the text
  in front of it.
-/

namespace ScriptStudio

/-! ## Layouts and scans -/

variable {text later : List Char}

/-- A layout, cut in front of one of its tokens. -/
theorem Laid.cut {before rest : List Char} {earlier others : List Token} {token : Token}
    (h : Laid before (earlier ++ token :: others) text rest) :
    ∃ front behind, text = front ++ (token.text.toList ++ behind) ∧
      token.place = Place.endOf (before ++ front) ∧
      Laid before earlier front (token.text.toList ++ (behind ++ rest)) ∧
      Leads token.kind token.text.toList (token.text.toList ++ (behind ++ rest)) := by
  induction earlier generalizing before text with
  | nil =>
    cases h with
    | token hgap hplace hleads hlater => exact ⟨_, _, rfl, hplace, .gap hgap, hleads⟩
  | cons first earlier ih =>
    cases h with
    | @token _ gap _ _ _ _ hgap hplace hleads hlater =>
      obtain ⟨front, behind, rfl, hplace', hfront, hcut⟩ := ih hlater
      rw [List.append_assoc, List.append_assoc] at hgap hleads
      refine ⟨gap ++ (first.text.toList ++ front), behind, by simp, ?_,
        .token hgap hplace hleads hfront, hcut⟩
      rw [hplace', List.append_assoc, List.append_assoc]

theorem takeWhile_of_atLineEnd (h : AtLineEnd later) : later.takeWhile (· ≠ '\n') = [] := by
  cases later with
  | nil => rfl
  | cons c rest =>
    rw [h c rfl]
    exact List.takeWhile_cons_of_neg (by decide)

theorem scan_gap {gap : List Char} (h : Gap gap later) (before : List Char) :
    scan (Place.endOf before) (gap ++ later) = scan (Place.endOf (before ++ gap)) later := by
  induction h generalizing before with
  | none => rw [List.nil_append, List.append_nil]
  | @blank c gap later hc _ ih =>
    have hgap : isGap c = true := by
      rcases hc with rfl | rfl | rfl <;> rfl
    rw [List.cons_append, scan, if_pos hgap, Place.next_endOf, ih, List.append_assoc,
      List.singleton_append]
  | @comment text later htext hlater =>
    have hline : ∀ c ∈ text, decide (c ≠ '\n') = true := by
      intro c hc
      rw [decide_eq_true_iff]
      rintro rfl
      exact htext hc
    have hrest : later.dropWhile (· ≠ '\n') = later := by
      have hsplit := List.takeWhile_append_dropWhile (p := (· ≠ '\n')) (l := later)
      rwa [takeWhile_of_atLineEnd hlater, List.nil_append] at hsplit
    rw [List.cons_append, scan, if_neg (by decide), if_pos rfl,
      List.takeWhile_append_of_pos hline, List.dropWhile_append_of_pos hline,
      takeWhile_of_atLineEnd hlater, hrest, List.append_nil, Place.next_endOf,
      Place.advance_endOf, List.append_assoc, List.singleton_append]

/-- A lexeme at the front of a text is scanned to its token. -/
theorem scan_leads {kind : TokenKind} {lexeme : List Char} (h : Leads kind lexeme (lexeme ++ later))
    (before : List Char) :
    scan (Place.endOf before) (lexeme ++ later) =
      { scan (Place.endOf (before ++ lexeme)) later with
        tokens := ⟨kind, String.ofList lexeme, Place.endOf before⟩ ::
          (scan (Place.endOf (before ++ lexeme)) later).tokens } := by
  obtain ⟨c, word, rfl, hfound⟩ := h.exists_lexeme?
  have hc : ¬(isGap c = true ∨ c = '#') := by
    intro hgap
    rw [lexeme?_eq_none_of_gap hgap] at hfound
    cases hfound
  rw [not_or] at hc
  rw [List.cons_append, scan, if_neg hc.1, if_neg hc.2]
  simp only [hfound, List.take_left, List.drop_left, Place.advance_endOf]

/-- What is laid out is scanned to its tokens, and then the scan goes on behind it. -/
theorem Laid.scan_eq {before rest : List Char} {tokens : List Token}
    (h : Laid before tokens text rest) :
    scan (Place.endOf before) (text ++ rest) =
      { scan (Place.endOf (before ++ text)) rest with
        tokens := tokens ++ (scan (Place.endOf (before ++ text)) rest).tokens } := by
  induction h with
  | gap hgap => exact scan_gap hgap _
  | @token before gap text rest token tokens hgap hplace hleads hlater ih =>
    rw [List.append_assoc, List.append_assoc, scan_gap hgap, scan_leads hleads, List.append_assoc,
      ih, ← hplace, String.ofList_toList, List.append_assoc, List.append_assoc]
    rfl

theorem scan_unmatched {c : Char} (h : Unmatched c later) (place : Place) :
    scan place (c :: later) = ⟨[], place, c :: later⟩ := by
  have hgap : ¬isGap c = true := by
    intro hgap
    cases h.not_gap [c] later rfl (.blank (eq_or_of_isGap hgap) .none)
  have hcomment : c ≠ '#' := by
    rintro rfl
    have hline := atLineEnd_dropWhile later
    have hnone : '\n' ∉ later.takeWhile (· ≠ '\n') := fun hmem => by
      simpa using List.mem_takeWhile_imp hmem
    have htext : '#' :: later =
        ('#' :: later.takeWhile (· ≠ '\n')) ++ later.dropWhile (· ≠ '\n') := by
      rw [List.cons_append, List.takeWhile_append_dropWhile]
    cases h.not_gap _ _ htext (.comment hnone hline)
  have hlexeme : lexeme? c later = none := by
    rw [lexeme?, List.findSome?_eq_none_iff]
    intro pattern hpattern
    rw [h.not_lexeme pattern hpattern]
    rfl
  rw [scan, if_neg hgap, if_neg hcomment]
  simp only [hlexeme]

/-- Different points of a text have different places. -/
theorem Place.endOf_take_inj {first second : Nat} (hfirst : first ≤ text.length)
    (hsecond : second ≤ text.length)
    (h : Place.endOf (text.take first) = Place.endOf (text.take second)) : first = second := by
  wlog hle : first ≤ second generalizing first second
  · exact (this hsecond hfirst h.symm (by omega)).symm
  have htake : text.take second = text.take first ++ (text.take second).drop first := by
    conv_lhs => rw [← List.take_append_drop first (text.take second)]
    rw [List.take_take, Nat.min_eq_left hle]
  rw [htake] at h
  have hlength := congrArg List.length (Place.eq_nil_of_endOf_append h.symm)
  rw [List.length_drop, List.length_take_of_le hsecond, List.length_nil] at hlength
  omega

/-! ## Mistakes -/

/-- What code is refused for: a character with which no lexeme begins, or a token. -/
inductive Mistake where
  | char (error : LexError)
  | token (error : ParseError)

namespace Mistake

/-- The place that is told. -/
def place : Mistake → Place
  | .char error => error.place
  | .token error => error.token.place

/-- The mistake is not that the code ends. -/
def isInside : Mistake → Bool
  | .char _ => true
  | .token error => error.token.kind != .endOfFile

/-- The code is refused for the mistake. -/
def IsIn (code : String) : Mistake → Prop
  | .char error => tokenize code = .error error
  | .token error =>
    ∃ tokens, tokenize code = .ok tokens ∧ Program.ofTokens tokens = .error (.refused error)

/-- The character or the token of the mistake begins at an offset of the code: in front of it, the
code is laid out as the tokens that come before. -/
def StartsAt (code : String) (offset : Nat) : Mistake → Prop
  | .char error => ∃ earlier front later, code.toList = front ++ error.char :: later ∧
      Laid [] earlier front (error.char :: later) ∧ Unmatched error.char later ∧
      front.length = offset
  | .token error => ∃ earlier others front later,
      tokenize code = .ok (earlier ++ error.token :: others) ∧
      code.toList = front ++ (error.token.text.toList ++ later) ∧
      Laid [] earlier front (error.token.text.toList ++ later) ∧ front.length = offset

variable {code : String} {mistake : Mistake} {offset : Nat}

/-- A refused token is one of the tokens. -/
theorem exists_of_refused {tokens : List Token} {error : ParseError}
    (hended : Grammar.Ended tokens) (h : Program.ofTokens tokens = .error (.refused error)) :
    ∃ earlier others, tokens = earlier ++ error.token :: others := by
  obtain ⟨goal, later, rest, hreaches, -⟩ := Grammar.exists_refuse_of_ofTokens hended h
  obtain ⟨taken, htokens⟩ := hreaches.suffix
  exact ⟨taken, rest, htokens.symm⟩

/-- A token that is not the end of the file is found by a scan. -/
theorem exists_body_of_tokenize {earlier others : List Token} {token : Token}
    (h : tokenize code = .ok (earlier ++ token :: others)) (hkind : token.kind ≠ .endOfFile) :
    (scan Place.start code.toList).rest = [] ∧
      ∃ more, (scan Place.start code.toList).tokens = earlier ++ token :: more := by
  obtain ⟨hrest, htokens⟩ := Scan.result_eq_ok_iff.mp h
  refine ⟨hrest, ?_⟩
  rcases List.eq_nil_or_concat others with rfl | ⟨more, last, rfl⟩
  · have hlast := (List.cons.inj (List.append_inj_right' htokens rfl)).1
    rw [hlast] at hkind
    exact absurd rfl hkind
  · rw [List.concat_eq_append, ← List.cons_append, ← List.append_assoc] at htokens
    exact ⟨more, (List.append_inj_left' htokens rfl).symm⟩

theorem exists_startsAt (hmistake : mistake.IsIn code) (hinside : mistake.isInside = true) :
    ∃ offset, mistake.StartsAt code offset := by
  cases mistake with
  | char error =>
    obtain ⟨later, hrest, -⟩ := Scan.result_eq_error_iff.mp hmistake
    obtain ⟨text, hcode, hlaid, -, hstuck⟩ := scan_laid [] code.toList
    rw [Place.endOf_nil] at hcode hlaid hstuck
    rw [hrest] at hcode hlaid
    exact ⟨_, _, text, later, hcode, hlaid, hstuck _ _ hrest, rfl⟩
  | token error =>
    obtain ⟨tokens, htokens, hrefused⟩ := hmistake
    have hkind : error.token.kind ≠ .endOfFile := by simpa [isInside] using hinside
    obtain ⟨-, hbody⟩ := Scan.result_eq_ok_iff.mp htokens
    obtain ⟨earlier, others, rfl⟩ :=
      exists_of_refused (hbody ▸ (Grammar.closed_append_singleton _ rfl).ended) hrefused
    obtain ⟨hrest, more, hmore⟩ := exists_body_of_tokenize htokens hkind
    obtain ⟨hlaid, -⟩ := scan_laid_whole hrest
    rw [hmore] at hlaid
    obtain ⟨front, behind, hcode, -, hfront, -⟩ := hlaid.cut
    rw [List.append_nil] at hfront
    exact ⟨_, earlier, others, front, behind, htokens, hcode, hfront, rfl⟩

theorem StartsAt.place_eq (h : mistake.StartsAt code offset) (hmistake : mistake.IsIn code)
    (hinside : mistake.isInside = true) :
    offset < code.toList.length ∧ mistake.place = Place.endOf (code.toList.take offset) := by
  cases mistake with
  | char error =>
    obtain ⟨earlier, front, later, hcode, hlaid, hstuck, rfl⟩ := h
    have hscan := hlaid.scan_eq
    rw [← hcode, scan_unmatched hstuck, List.nil_append] at hscan
    obtain ⟨rest, -, hplace⟩ := Scan.result_eq_error_iff.mp hmistake
    rw [Place.endOf_nil] at hscan
    rw [hscan] at hplace
    refine ⟨by simp [hcode], ?_⟩
    rw [hcode, List.take_left]
    exact hplace.symm
  | token error =>
    obtain ⟨earlier, others, front, later, htokens, hcode, hlaid, rfl⟩ := h
    have hkind : error.token.kind ≠ .endOfFile := by simpa [isInside] using hinside
    obtain ⟨-, more, hmore⟩ := exists_body_of_tokenize htokens hkind
    have hscan := congrArg Scan.tokens hlaid.scan_eq
    rw [Place.endOf_nil, ← hcode, hmore] at hscan
    have hnext := List.append_cancel_left hscan
    -- the token is found, so its text begins with no gap and the next scan begins with it
    have hmem : error.token ∈ (scan Place.start code.toList).tokens := by
      rw [hmore]
      exact List.mem_append_right _ List.mem_cons_self
    obtain ⟨c, rest, length, hfound, htext⟩ := exists_lexeme?_of_mem_scan hmem
    have hc : ¬(isGap c = true ∨ c = '#') := by
      intro hgap
      rw [lexeme?_eq_none_of_gap hgap] at hfound
      cases hfound
    rw [not_or] at hc
    rw [htext, String.toList_ofList, List.cons_append, List.nil_append, scan, if_neg hc.1,
      if_neg hc.2] at hnext
    refine ⟨by simp [hcode, htext], ?_⟩
    rw [hcode, List.take_left]
    split at hnext
    · cases hnext
    · exact congrArg Token.place (List.cons.inj hnext).1

/-- A mistake begins at exactly one point of the code, and the place that is told is that of this
point. -/
theorem exists_startsAt_iff (hmistake : mistake.IsIn code) (hinside : mistake.isInside = true) :
    ∃ offset < code.toList.length, mistake.place = Place.endOf (code.toList.take offset) ∧
      ∀ other, mistake.StartsAt code other ↔ other = offset := by
  obtain ⟨offset, hstarts⟩ := exists_startsAt hmistake hinside
  obtain ⟨hlt, hplace⟩ := hstarts.place_eq hmistake hinside
  refine ⟨offset, hlt, hplace, fun other => ⟨fun hother => ?_, fun heq => heq ▸ hstarts⟩⟩
  obtain ⟨hlt', hplace'⟩ := hother.place_eq hmistake hinside
  rw [hplace] at hplace'
  exact (Place.endOf_take_inj hlt.le hlt'.le hplace').symm

end Mistake

end ScriptStudio
