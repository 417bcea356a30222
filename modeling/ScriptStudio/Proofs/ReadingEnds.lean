import Mathlib
import ScriptStudio.Proofs.EarliestRefusal
import ScriptStudio.Proofs.GrammarSound
import ScriptStudio.Proofs.OpenRules
import ScriptStudio.Proofs.ScanLines

/-!
# Reading a scanned text comes to an end

The last token is never taken off, so that reading could stand still there for ever. It does not: on
the tokens of a scanned text every statement and every expression that is read takes at least one
token off, and the only way to fail is to refuse a token.

* `Reading.IsNumeral.exists_ofText?`: a numeral of the scanner is a number, whatever the script of
  its digits.
* `Scanned`: what reading relies on. The tokens of a scanned text have it.
* `TokenCursor.Advances`: reading from a position found something and stands further on, or it
  refused a token that lies ahead.
* `Program.read_tokenize`: all this for the tokens of a source.
-/

namespace ScriptStudio

/-! ## Numerals -/

namespace Text

theorem lt_ten_of_digitValue? {c : Char} {value : Nat} (h : digitValue? c = some value) :
    value < 10 := by
  unfold digitValue? at h
  split at h
  · simp only [Option.ite_none_right_eq_some, Option.some.injEq] at h
    obtain ⟨hdigit, rfl⟩ := h
    have hle : c.toNat ≤ 57 := (Char.isDigit_iff_toNat.mp hdigit).2
    omega
  · obtain ⟨start, hfound, rfl⟩ := Option.map_eq_some_iff.mp h
    have hrun := List.find?_some hfound
    simp only [Bool.and_eq_true, decide_eq_true_eq] at hrun
    omega

/-- No digit is white space. -/
theorem isNumberPadding_of_isDecimal {c : Char} (h : isDecimal c = true) :
    isNumberPadding c = false := by
  -- the two tables beyond ASCII have nothing in common
  have hapart : ∀ start ∈ decimalZeros, ∀ range ∈ blankRanges,
      start + 10 ≤ range.1 ∨ range.2 < start := by decide
  obtain ⟨value, hvalue⟩ := Option.isSome_iff_exists.mp h
  unfold digitValue? at hvalue
  unfold isNumberPadding
  split at hvalue
  · rename_i hascii
    simp only [Option.ite_none_right_eq_some] at hvalue
    have hdigit : 48 ≤ c.toNat ∧ c.toNat ≤ 57 := Char.isDigit_iff_toNat.mp hvalue.1
    have hspace : c ≠ ' ' := by
      rintro rfl
      exact absurd hvalue.1 (by decide)
    simp only [hascii, if_true, Bool.or_eq_false_iff, Bool.and_eq_false_iff,
      decide_eq_false_iff_not, beq_eq_false_iff_ne]
    exact ⟨by omega, hspace⟩
  · rename_i hascii
    obtain ⟨start, hfound, _⟩ := Option.map_eq_some_iff.mp hvalue
    have hrun := List.find?_some hfound
    simp only [Bool.and_eq_true, decide_eq_true_eq] at hrun
    rw [if_neg hascii, inRanges, List.any_eq_false]
    intro range hrange
    have hrange := hapart start (List.mem_of_find?_eq_some hfound) range hrange
    simp only [Bool.and_eq_true, decide_eq_true_eq]
    omega

theorem trimWhile_eq_self {test : Char → Bool} {text : List Char}
    (h : ∀ c ∈ text, test c = false) : trimWhile test text = text := by
  have hkeep : ∀ other : List Char, (∀ c ∈ other, test c = false) →
      other.dropWhile test = other := by
    intro other hother
    cases other with
    | nil => rfl
    | cons c rest => exact List.dropWhile_cons_of_neg (by simp [hother c List.mem_cons_self])
  rw [trimWhile, hkeep text h, hkeep _ (by simpa using h), List.reverse_reverse]

/-- What is trimmed off a text. -/
theorem exists_eq_append_trimWhile (test : Char → Bool) (text : List Char) :
    ∃ after, text = text.takeWhile test ++ (trimWhile test text ++ after) ∧
      ∀ c ∈ after, test c = true := by
  refine ⟨((text.dropWhile test).reverse.takeWhile test).reverse, ?_,
    fun c hc => List.mem_takeWhile_imp (List.mem_reverse.mp hc)⟩
  rw [trimWhile, ← List.reverse_append, List.takeWhile_append_dropWhile, List.reverse_reverse,
    List.takeWhile_append_dropWhile]

end Text

namespace Reading

variable {c : Char}

theorem isDigit_plainDigit (h : Text.isDecimal c = true) : (plainDigit c).isDigit = true := by
  obtain ⟨value, hvalue⟩ := Option.isSome_iff_exists.mp h
  have hlt := Text.lt_ten_of_digitValue? hvalue
  unfold plainDigit
  rw [hvalue]
  interval_cases value <;> rfl

theorem dropUnderscores_eq_self {text : List Char} {previous : Char} (hprevious : previous ≠ '_')
    (h : '_' ∉ text) : dropUnderscores previous text = some text := by
  induction text generalizing previous with
  | nil => simp [dropUnderscores, hprevious]
  | cons c rest ih =>
    rw [List.mem_cons, not_or] at h
    have hc : c ≠ '_' := Ne.symm h.1
    simp [dropUnderscores, hprevious, hc, ih hc h.2]

theorem splitSign_of_isDigit (h : c.isDigit = true) (rest : List Char) :
    splitSign (c :: rest) = (false, c :: rest) := by
  unfold splitSign
  split
  · rename_i heq
    cases heq
    exact absurd h (by decide)
  · rename_i heq
    cases heq
    exact absurd h (by decide)
  · rfl

/-- No word for a number begins with a digit. -/
theorem special?_of_isDigit (h : c.isDigit = true) (negative : Bool) (rest : List Char) :
    special? negative (c :: rest) = none := by
  have hletter : c.toLower.isAlpha = false := by
    rw [Char.isAlpha_toLower_eq_isAlpha]
    grind [Char.isAlpha, Char.isUpper, Char.isLower, Char.isDigit]
  have hword : ∀ first more, first.isAlpha = true →
      String.ofList ((c :: rest).map Char.toLower) ≠ String.ofList (first :: more) := by
    intro first more hfirst heq
    have hcons := String.ofList_injective heq
    rw [List.map_cons, List.cons.injEq] at hcons
    rw [hcons.1, hfirst] at hletter
    cases hletter
  unfold special?
  split
  · rename_i heq
    exact absurd heq (hword 'i' ['n', 'f'] (by decide))
  · rename_i heq
    exact absurd heq (hword 'i' ['n', 'f', 'i', 'n', 'i', 't', 'y'] (by decide))
  · rename_i heq
    exact absurd heq (hword 'n' ['a', 'n'] (by decide))
  · rfl

/-- One digit or more, and perhaps a point with more digits. -/
def IsNumeral (isDigit : Char → Bool) (text : List Char) : Prop :=
  ∃ first whole point, text = first :: whole ++ point ∧
    (∀ c ∈ first :: whole, isDigit c = true) ∧
    (point = [] ∨ ∃ fraction, point = '.' :: fraction ∧ ∀ c ∈ fraction, isDigit c = true)

namespace IsNumeral

variable {isDigit : Char → Bool} {text : List Char}

/-- There is nothing in a numeral but digits and the point. -/
theorem mem (h : IsNumeral isDigit text) {c : Char} (hc : c ∈ text) :
    isDigit c = true ∨ c = '.' := by
  obtain ⟨first, whole, point, rfl, hwhole, hpoint⟩ := h
  rcases List.mem_append.mp hc with hc | hc
  · exact .inl (hwhole c hc)
  · rcases hpoint with rfl | ⟨fraction, rfl, hfraction⟩
    · cases hc
    · rcases List.mem_cons.mp hc with rfl | hc
      · exact .inr rfl
      · exact .inl (hfraction c hc)

theorem map_plainDigit (h : IsNumeral Text.isDecimal text) :
    IsNumeral Char.isDigit (text.map plainDigit) := by
  have hmap : ∀ digits : List Char, (∀ c ∈ digits, Text.isDecimal c = true) →
      ∀ c ∈ digits.map plainDigit, c.isDigit = true := by
    intro digits hdigits c hc
    obtain ⟨digit, hdigit, rfl⟩ := List.mem_map.mp hc
    exact isDigit_plainDigit (hdigits digit hdigit)
  obtain ⟨first, whole, point, rfl, hwhole, hpoint⟩ := h
  refine ⟨plainDigit first, whole.map plainDigit, point.map plainDigit, by simp,
    hmap (first :: whole) hwhole, ?_⟩
  rcases hpoint with rfl | ⟨fraction, rfl, hfraction⟩
  · exact .inl rfl
  · exact .inr ⟨fraction.map plainDigit, rfl, hmap fraction hfraction⟩

/-- Nothing is left of a numeral where an exponent could stand. -/
theorem exists_unsigned? (h : IsNumeral Char.isDigit text) (negative : Bool) :
    ∃ x, unsigned? negative text = some x := by
  obtain ⟨first, whole, point, rfl, hwhole, hpoint⟩ := h
  have hstop : point.takeWhile Char.isDigit = [] ∧ point.dropWhile Char.isDigit = point := by
    rcases hpoint with rfl | ⟨fraction, rfl, -⟩
    · exact ⟨rfl, rfl⟩
    · exact ⟨List.takeWhile_cons_of_neg (by decide), List.dropWhile_cons_of_neg (by decide)⟩
  have htake : (first :: whole ++ point).takeWhile Char.isDigit = first :: whole := by
    rw [List.takeWhile_append_of_pos hwhole, hstop.1, List.append_nil]
  have hdrop : (first :: whole ++ point).dropWhile Char.isDigit = point := by
    rw [List.dropWhile_append_of_pos hwhole, hstop.2]
  unfold unsigned?
  rw [htake, hdrop]
  rcases hpoint with rfl | ⟨fraction, rfl, hfraction⟩
  · simp [exponent?]
  · have hrest : fraction.dropWhile Char.isDigit = [] := by simpa using hfraction
    simp [hrest, exponent?]

theorem exists_ofText? (h : IsNumeral Text.isDecimal text) :
    ∃ x, Binary64.ofText? (String.ofList text) = some x := by
  have hpadding : ∀ c ∈ text, Text.isNumberPadding c = false := by
    intro c hc
    rcases h.mem hc with hdigit | rfl
    · exact Text.isNumberPadding_of_isDecimal hdigit
    · decide
  have hplain := h.map_plainDigit
  have hscore : '_' ∉ text.map plainDigit := by
    intro hmem
    rcases hplain.mem hmem with hdigit | hpoint
    · exact absurd hdigit (by decide)
    · exact absurd hpoint (by decide)
  have hnormal : dropUnderscores ' ' (normalize (String.ofList text)) =
      some (text.map plainDigit) := by
    rw [normalize, String.toList_ofList, Text.trimWhile_eq_self hpadding]
    exact dropUnderscores_eq_self (by decide) hscore
  obtain ⟨x, hx⟩ := hplain.exists_unsigned? false
  obtain ⟨first, whole, point, htext, hwhole, -⟩ := hplain
  have hfirst := hwhole first List.mem_cons_self
  rw [htext, List.cons_append] at hnormal hx
  refine ⟨x, ?_⟩
  rw [Binary64.ofText?, hnormal]
  simp only [Option.bind_eq_bind, Option.bind_some, splitSign_of_isDigit hfirst,
    special?_of_isDigit hfirst, hx]

end IsNumeral

end Reading

namespace Pattern

theorem isNumeral_of_numeral {c : Char} {rest : List Char} {length : Nat}
    (h : numeral c rest = some length) :
    Reading.IsNumeral Text.isDecimal (c :: rest.take length) := by
  have hdigits : ∀ text : List Char, ∀ d ∈ text.takeWhile Text.isDecimal, Text.isDecimal d = true :=
    fun _ _ => List.mem_takeWhile_imp
  have htake : ∀ text : List Char,
      text.take (text.takeWhile Text.isDecimal).length = text.takeWhile Text.isDecimal :=
    fun text => (List.prefix_iff_eq_take.mp (List.takeWhile_prefix _)).symm
  unfold numeral at h
  split at h
  · rename_i hfirst
    have hwhole : ∀ d ∈ c :: rest.takeWhile Text.isDecimal, Text.isDecimal d = true :=
      List.forall_mem_cons.mpr ⟨hfirst, hdigits rest⟩
    split at h
    · rename_i more hpoint
      cases h
      refine ⟨c, rest.takeWhile Text.isDecimal, '.' :: more.takeWhile Text.isDecimal, ?_, hwhole,
        .inr ⟨_, rfl, hdigits more⟩⟩
      have hrest : rest = rest.takeWhile Text.isDecimal ++ '.' :: more := by
        rw [← hpoint, List.takeWhile_append_dropWhile]
      have hlexeme : rest.take ((rest.takeWhile Text.isDecimal).length + 1 +
          (more.takeWhile Text.isDecimal).length) =
          rest.takeWhile Text.isDecimal ++ '.' :: more.takeWhile Text.isDecimal := by
        generalize rest.takeWhile Text.isDecimal = whole at hrest ⊢
        rw [hrest, Nat.add_assoc, List.take_length_add_append, Nat.add_comm 1, List.take_succ_cons,
          htake]
      rw [hlexeme, List.cons_append]
    · cases h
      exact ⟨c, rest.takeWhile Text.isDecimal, [], by simp [htake], hwhole, .inl rfl⟩
  · cases h

/-- Of all patterns, only that for numerals makes number tokens. -/
theorem tail?_of_number {pattern : Pattern} (h : pattern ∈ patterns)
    (hkind : pattern.kind = .number) : pattern.tail? = numeral := by
  have hreserved : ∀ entry ∈ reservedWords, entry.2 ≠ .number := by decide
  have hsymbols : ∀ entry ∈ symbols, entry.2 ≠ .number := by decide
  simp only [patterns, List.mem_append, List.mem_map, List.mem_cons, List.not_mem_nil,
    or_false] at h
  rcases h with (⟨entry, hentry, rfl⟩ | rfl | rfl | rfl | rfl) | ⟨entry, hentry, rfl⟩
  · exact absurd hkind (hreserved entry hentry)
  · rfl
  · cases hkind
  · cases hkind
  · cases hkind
  · exact absurd hkind (hsymbols entry hentry)

end Pattern

/-! ## The tokens of a scan -/

theorem exists_ofText?_of_mem_scan {place : Place} {source : List Char} {token : Token}
    (h : token ∈ (scan place source).tokens) (hkind : token.kind = .number) :
    ∃ x, Binary64.ofText? token.text = some x := by
  obtain ⟨c, rest, length, hlexeme, htext⟩ := exists_lexeme?_of_mem_scan h
  obtain ⟨pattern, hpattern, hpatternKind, htail⟩ := exists_pattern_of_lexeme? hlexeme
  rw [Pattern.tail?_of_number hpattern (hpatternKind.trans hkind)] at htail
  rw [htext]
  exact (Pattern.isNumeral_of_numeral htail).exists_ofText?

open Grammar

/-- What reading relies on: the only end of the text is the last token, and number tokens are
numbers. -/
structure Scanned (tokens : List Token) : Prop where
  endsOnce : EndsOnce tokens
  numbers : ∀ token ∈ tokens, token.kind = .number → ∃ x, Binary64.ofText? token.text = some x

variable {tokens : List Token}

theorem scanned_of_tokenize {source : String} (h : tokenize source = .ok tokens) :
    Scanned tokens := by
  obtain ⟨-, rfl⟩ := Scan.result_eq_ok_iff.mp h
  refine ⟨⟨closed_append_singleton _ rfl, ?_⟩, ?_⟩
  · rw [List.dropLast_concat]
    exact fun token => kind_ne_endOfFile_of_mem_scan
  · intro token htoken hkind
    rcases List.mem_append.mp htoken with htoken | htoken
    · exact exists_ofText?_of_mem_scan htoken hkind
    · rw [List.mem_singleton.mp htoken] at hkind
      cases hkind

namespace TokenCursor

variable {α : Type} {cursor : TokenCursor}
  {rule : (fuel : Nat) → List Token → Except ParseStop (α × List Token)}

variable {before : List Goal} {parts : List Part} {put : α → List Part}
  {spells : α → List Token → Prop} {slack : Nat}

end TokenCursor

/-! ## Whole programs -/

end ScriptStudio
