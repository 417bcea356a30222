import ScriptStudio.Proofs.Numerals

/-!
# Reading numerals

The readers of numbers take the numerals and no other text. Each reader trims the text, makes its
digits plain, drops the underscores and splits off the sign, and what is left then decides.

* `Numeral.IsPower`, `Numeral.IsPointed`: what may be left for the reader of 64-bit numbers.
* `Numeral.integerOfText?_isSome_iff`, `Numeral.ofText?_isSome_iff`: each reader.
* `Numeral.number?_toNumeric_isSome_iff`: a text counts as a number exactly if it is a numeral.
-/

namespace ScriptStudio

namespace Numeral

open Text Reading

/-! ## Integers -/

variable {text plain : List Char} {c : Char}

/-- A part of a number that is all digits, or empty. -/
theorem exists_spaced_of_anyDigits (h : text = [] ∨ Digits text) :
    ∃ plain, (∀ previous, Spaced previous (text.map plainDigit) plain) ∧
      (∀ c ∈ plain, c.isDigit = true) ∧ (plain = [] ↔ text = []) := by
  rcases h with rfl | h
  · exact ⟨[], .nil, by simp, Iff.rfl⟩
  · obtain ⟨first, rest, more, hmap, hspaced, hdigits, -⟩ := h.exists_spaced
    have hfirst := ne_underscore_of_isDigit (hdigits first List.mem_cons_self)
    refine ⟨first :: more, fun _ => ?_, hdigits, by simp [h.ne_nil]⟩
    rw [hmap]
    exact .next hfirst hspaced

theorem anyDigits_of_spaced {previous : Char} (hspaced : Spaced previous text plain)
    (hprevious : previous.isDigit = false) (hdigits : ∀ c ∈ plain, c.isDigit = true) :
    (text = [] ∨ Digits text) ∧ text.countP isDecimal = plain.length ∧
      (text = [] ↔ plain = []) := by
  cases hspaced with
  | nil => exact ⟨.inl rfl, rfl, Iff.rfl⟩
  | next hc h =>
    obtain ⟨hrun, hcount⟩ := digits_of_spaced h hdigits
    exact ⟨.inr hrun, hcount, by simp⟩
  | underscore hdigit _ _ =>
    rw [hprevious] at hdigit
    cases hdigit

/-- Both signs are taken unless the digits are refused. -/
theorem isSome_signed_iff (refused negative : Bool) (minus plus : Int) :
    (if refused then none else if negative then some minus else some plus).isSome = true ↔
      refused = false := by
  cases refused <;> cases negative <;> simp

theorem mem_integer_iff (inner : List Char) :
    inner ∈ sign * fewDigits ↔ ∃ plain, Spaced ' ' (inner.map plainDigit) plain ∧
      (splitSign plain).2 ≠ [] ∧ (∀ c ∈ (splitSign plain).2, c.isDigit = true) ∧
      (splitSign plain).2.length ≤ integerDigitLimit := by
  constructor
  · intro hinner
    obtain ⟨signed, hsigned, run, ⟨hrun, hfew⟩, rfl⟩ := Language.mem_mul.mp hinner
    obtain ⟨first, rest, more, hmap, hspaced, hdigits, hcount⟩ := hrun.exists_spaced
    have hfirst := hdigits first List.mem_cons_self
    refine ⟨signed ++ first :: more, ?_, ?_⟩
    · rw [List.map_append, hmap]
      exact (spaced_sign hsigned ' ').append fun _ =>
        .next (ne_underscore_of_isDigit hfirst) hspaced
    · rw [splitSign_of_digits hsigned hdigits]
      exact ⟨List.cons_ne_nil _ _, hdigits, hcount ▸ hfew⟩
  · rintro ⟨plain, hspaced, hsome, hdigits, hfew⟩
    obtain ⟨signed, hsigned, hplain⟩ := exists_sign plain
    rw [hplain] at hspaced
    obtain ⟨front, run, hinner, hfront, hrun⟩ := hspaced.split
    obtain ⟨rfl, hlast⟩ := eq_sign_of_spaced hsigned (by decide) hfront
    obtain ⟨hany, hcount, hnil⟩ := anyDigits_of_spaced hrun hlast hdigits
    refine (Unmaps.sign.mul Unmaps.fewDigits) inner ?_
    rw [hinner]
    refine Language.append_mem_mul hsigned ⟨hany.resolve_left ?_, hcount ▸ hfew⟩
    exact fun hempty => hsome (hnil.mp hempty)

theorem integerOfText?_isSome_iff (text : String) :
    (integerOfText? text).isSome = true ↔ text.toList ∈ integer := by
  have hfew : Avoids isNumberPadding (sign * fewDigits) := by
    intro word hword
    obtain ⟨signed, hsigned, run, hrun, rfl⟩ := Language.mem_mul.mp hword
    exact avoids_padding.1 _ (Language.append_mem_mul hsigned hrun.1)
  rw [integer, mem_padded_iff hfew, mem_integer_iff]
  unfold integerOfText? Reading.normalize
  simp only [← dropUnderscores_eq_some_iff (show ' ' ≠ '_' by decide)]
  cases dropUnderscores ' ' ((trimWhile isNumberPadding text.toList).map plainDigit) with
  | none => simp
  | some plain =>
    simp only [Option.bind_eq_bind, Option.bind_some, Option.some.injEq, exists_eq_left',
      isSome_signed_iff, Bool.or_eq_false_iff, List.isEmpty_eq_false_iff, Bool.not_eq_false',
      List.all_eq_true, decide_eq_false_iff_not, not_lt, and_assoc]

/-! ## Decimal numbers -/

/-- The exponents that are taken once underscores are gone. -/
def IsPower (text : List Char) : Prop :=
  text = [] ∨ ∃ mark signed rest, text = mark :: (signed ++ rest) ∧ (mark = 'e' ∨ mark = 'E') ∧
    signed ∈ sign ∧ rest ≠ [] ∧ ∀ c ∈ rest, c.isDigit = true

theorem isPower_cons_iff (mark : Char) (later : List Char) :
    IsPower (mark :: later) ↔ (mark = 'e' ∨ mark = 'E') ∧ (splitSign later).2 ≠ [] ∧
      ∀ c ∈ (splitSign later).2, c.isDigit = true := by
  constructor
  · rintro (hnil | ⟨mark, signed, rest, hcons, hmark, hsigned, hsome, hdigits⟩)
    · cases hnil
    · cases hcons
      rw [splitSign_of_digits hsigned hdigits]
      exact ⟨hmark, hsome, hdigits⟩
  · rintro ⟨hmark, hsome, hdigits⟩
    obtain ⟨signed, hsigned, hlater⟩ := exists_sign later
    exact .inr ⟨mark, signed, _, by rw [← hlater], hmark, hsigned, hsome, hdigits⟩

theorem exponent?_isSome_iff (text : List Char) :
    (exponent? text).isSome = true ↔ IsPower text := by
  cases text with
  | nil => simp [exponent?, IsPower]
  | cons mark later =>
    rw [isPower_cons_iff, exponent?]
    have hmark : (mark == 'e' || mark == 'E') = true ↔ mark = 'e' ∨ mark = 'E' := by simp
    split
    · rename_i htaken
      rw [isSome_signed_iff, Bool.or_eq_false_iff, List.isEmpty_eq_false_iff, Bool.not_eq_false',
        List.all_eq_true, and_iff_right (hmark.mp htaken)]
    · rename_i hother
      exact iff_of_false (by simp) fun h => hother (hmark.mpr h.1)

theorem IsPower.head_not_isDigit (h : IsPower text) (hc : text.head? = some c) :
    c.isDigit = false := by
  rcases h with rfl | ⟨mark, signed, rest, rfl, rfl | rfl, -⟩
  · cases hc
  · cases hc
    rfl
  · cases hc
    rfl

theorem IsPower.point_notMem (h : IsPower text) : '.' ∉ text := by
  rcases h with rfl | ⟨mark, signed, rest, rfl, hmark, hsigned, -, hdigits⟩
  · exact List.not_mem_nil
  · intro hmem
    rcases List.mem_cons.mp hmem with rfl | hmem
    · revert hmark
      decide
    · rcases List.mem_append.mp hmem with hmem | hmem
      · have hsign : Avoids (· == '.') sign := Avoids.sign (by decide) (by decide)
        exact absurd (hsign signed hsigned '.' hmem) (by decide)
      · exact absurd (hdigits '.' hmem) (by decide)

theorem takeWhile_dropWhile_digits {run rest : List Char} (hrun : ∀ c ∈ run, c.isDigit = true)
    (hrest : ∀ c, rest.head? = some c → c.isDigit = false) :
    (run ++ rest).takeWhile Char.isDigit = run ∧ (run ++ rest).dropWhile Char.isDigit = rest := by
  rw [List.takeWhile_append_of_pos hrun, List.dropWhile_append_of_pos hrun]
  cases rest with
  | nil => exact ⟨List.append_nil run, rfl⟩
  | cons c rest =>
    have hc : ¬c.isDigit = true := by simp [hrest c rfl]
    rw [List.takeWhile_cons_of_neg hc, List.dropWhile_cons_of_neg hc, List.append_nil]
    exact ⟨rfl, rfl⟩

/-- The unsigned numbers with a point that are taken once underscores are gone. -/
def IsPointed (text : List Char) : Prop :=
  ∃ whole fraction power, text = whole ++ '.' :: (fraction ++ power) ∧
    (∀ c ∈ whole, c.isDigit = true) ∧ (∀ c ∈ fraction, c.isDigit = true) ∧
    (whole ≠ [] ∨ fraction ≠ []) ∧ IsPower power

theorem unsigned?_isSome_iff_of_point {rest : List Char}
    (hpoint : text.dropWhile Char.isDigit = '.' :: rest) (negative : Bool) :
    (unsigned? negative text).isSome = true ↔
      (text.takeWhile Char.isDigit ≠ [] ∨ rest.takeWhile Char.isDigit ≠ []) ∧
        IsPower (rest.dropWhile Char.isDigit) := by
  unfold unsigned?
  rw [hpoint]
  have hshorter : rest.length < ('.' :: rest).length := Nat.lt_succ_self _
  simp only [hshorter, if_true, Bool.and_eq_true, List.isEmpty_iff]
  split
  · rename_i hnone
    simp [hnone]
  · rename_i hsome
    rw [Option.isSome_map, exponent?_isSome_iff, and_iff_right (not_and_or.mp hsome)]

theorem isPower_of_unsigned?_isSome {negative : Bool}
    (hpoint : ∀ rest, text.dropWhile Char.isDigit ≠ '.' :: rest)
    (h : (unsigned? negative text).isSome = true) : IsPower (text.dropWhile Char.isDigit) := by
  unfold unsigned? at h
  generalize text.dropWhile Char.isDigit = rest at hpoint h ⊢
  dsimp only at h
  split at h
  · exact absurd rfl (hpoint _)
  · simp only [if_neg (Nat.lt_irrefl rest.length)] at h
    split at h
    · cases h
    · rwa [Option.isSome_map, exponent?_isSome_iff] at h

theorem unsigned?_isSome_iff (hpoint : '.' ∈ text) (negative : Bool) :
    (unsigned? negative text).isSome = true ↔ IsPointed text := by
  have htext : text = text.takeWhile Char.isDigit ++ text.dropWhile Char.isDigit :=
    List.takeWhile_append_dropWhile.symm
  have hwhole : ∀ c ∈ text.takeWhile Char.isDigit, c.isDigit = true :=
    fun _ => List.mem_takeWhile_imp
  constructor
  · intro hsome
    by_cases hafter : ∃ rest, text.dropWhile Char.isDigit = '.' :: rest
    · obtain ⟨rest, hrest⟩ := hafter
      obtain ⟨hdigits, hpower⟩ := (unsigned?_isSome_iff_of_point hrest negative).mp hsome
      refine ⟨text.takeWhile Char.isDigit, rest.takeWhile Char.isDigit, rest.dropWhile Char.isDigit,
        ?_, hwhole, fun _ => List.mem_takeWhile_imp, hdigits, hpower⟩
      rw [List.takeWhile_append_dropWhile, ← hrest]
      exact htext
    -- the point would stand among the digits or in the exponent, and there is none in either
    · have hpower := isPower_of_unsigned?_isSome (fun rest hrest => hafter ⟨rest, hrest⟩) hsome
      rw [htext, List.mem_append] at hpoint
      rcases hpoint with hpoint | hpoint
      · exact absurd (hwhole '.' hpoint) (by decide)
      · exact absurd hpoint hpower.point_notMem
  · rintro ⟨whole, fraction, power, rfl, hdigits, hmore, hsome, hpower⟩
    have hdot : ∀ c, ('.' :: (fraction ++ power)).head? = some c → c.isDigit = false := by
      rintro c ⟨⟩
      rfl
    obtain ⟨htake, hdrop⟩ := takeWhile_dropWhile_digits hdigits hdot
    obtain ⟨htake', hdrop'⟩ :=
      takeWhile_dropWhile_digits hmore fun _ => hpower.head_not_isDigit
    rw [unsigned?_isSome_iff_of_point hdrop, htake, htake', hdrop']
    exact ⟨hsome, hpower⟩

/-- No word for a number has a point in it. -/
theorem special?_of_point (hpoint : '.' ∈ text) (negative : Bool) :
    special? negative text = none := by
  have hlower : '.' ∈ text.map Char.toLower := List.mem_map.mpr ⟨'.', hpoint, rfl⟩
  have hword : ∀ word : List Char, '.' ∉ word →
      String.ofList (text.map Char.toLower) ≠ String.ofList word := by
    intro word hword heq
    rw [String.ofList_injective heq] at hlower
    exact hword hlower
  unfold special?
  split
  · rename_i heq
    exact absurd heq (hword ['i', 'n', 'f'] (by decide))
  · rename_i heq
    exact absurd heq (hword ['i', 'n', 'f', 'i', 'n', 'i', 't', 'y'] (by decide))
  · rename_i heq
    exact absurd heq (hword ['n', 'a', 'n'] (by decide))
  · rfl

theorem spaced_symbol (hc : isDecimal c = false) (hunderscore : c ≠ '_') (previous : Char) :
    Spaced previous ([c].map plainDigit) [c] := by
  rw [List.map_singleton, plainDigit_of_not_isDecimal hc]
  exact .next hunderscore (.nil c)

theorem exists_power_of_mem_exponent (h : text ∈ exponent) :
    ∃ plain, (∀ previous, Spaced previous (text.map plainDigit) plain) ∧ IsPower plain := by
  rcases mem_exponent.mp h with rfl | ⟨mark, signed, rest, rfl, hmark, hsigned, hrest⟩
  · exact ⟨[], .nil, .inl rfl⟩
  · obtain ⟨plain, hspaced, hdigits, hnil⟩ := exists_spaced_of_anyDigits (.inr hrest)
    have hplain : isDecimal mark = false ∧ mark ≠ '_' := by
      rcases hmark with rfl | rfl <;> decide
    refine ⟨[mark] ++ (signed ++ plain), fun previous => ?_,
      .inr ⟨mark, signed, plain, rfl, hmark, hsigned, mt hnil.mp hrest.ne_nil, hdigits⟩⟩
    have hparts : mark :: (signed ++ rest) = [mark] ++ (signed ++ rest) := rfl
    rw [hparts, List.map_append, List.map_append]
    exact (spaced_symbol hplain.1 hplain.2 previous).append fun last =>
      (spaced_sign hsigned last).append hspaced

theorem mem_exponent_of_spaced {previous : Char} (hspaced : Spaced previous text plain)
    (hpower : IsPower plain) : text ∈ exponent := by
  rcases hpower with rfl | ⟨mark, signed, rest, rfl, hmark, hsigned, hsome, hdigits⟩
  · exact mem_exponent.mpr (.inl hspaced.eq_nil)
  · have hdigit : mark.isDigit = false := by
      rcases hmark with rfl | rfl <;> decide
    obtain ⟨later, rfl, hlater⟩ := hspaced.exists_cons hdigit
    obtain ⟨front, run, rfl, hfront, hrun⟩ := hlater.split
    obtain ⟨rfl, hlast⟩ := eq_sign_of_spaced hsigned hdigit hfront
    obtain ⟨hany, -, hnil⟩ := anyDigits_of_spaced hrun hlast hdigits
    exact mem_exponent.mpr (.inr ⟨mark, front, run, rfl, hmark, hsigned,
      hany.resolve_left (mt hnil.mp hsome)⟩)

theorem IsPointed.head_not_sign (h : IsPointed text) (hc : text.head? = some c) :
    c ≠ '-' ∧ c ≠ '+' := by
  obtain ⟨whole, fraction, power, rfl, hwhole, -⟩ := h
  cases whole with
  | nil =>
    cases hc
    decide
  | cons first whole =>
    cases hc
    exact not_sign_of_isDigit (hwhole c List.mem_cons_self)

theorem mem_decimal_iff (inner : List Char) :
    inner ∈ sign * point * exponent ↔ ∃ plain, Spaced ' ' (inner.map plainDigit) plain ∧
      IsPointed (splitSign plain).2 := by
  constructor
  · intro hinner
    obtain ⟨_, hfront, power, hpower, rfl⟩ := Language.mem_mul.mp hinner
    obtain ⟨signed, hsigned, _, hpointed, rfl⟩ := Language.mem_mul.mp hfront
    obtain ⟨whole, fraction, rfl, hwhole, hfraction, hsome⟩ := mem_point.mp hpointed
    obtain ⟨whole', hwhole, hwholeDigits, hwholeNil⟩ := exists_spaced_of_anyDigits hwhole
    obtain ⟨fraction', hfraction, hfractionDigits, hfractionNil⟩ :=
      exists_spaced_of_anyDigits hfraction
    obtain ⟨power', hpower, hpowerPlain⟩ := exists_power_of_mem_exponent hpower
    have hplain : IsPointed (whole' ++ '.' :: (fraction' ++ power')) :=
      ⟨whole', fraction', power', rfl, hwholeDigits, hfractionDigits,
        hsome.imp (mt hwholeNil.mp) (mt hfractionNil.mp), hpowerPlain⟩
    refine ⟨signed ++ (whole' ++ '.' :: (fraction' ++ power')), ?_, ?_⟩
    · have hparts : signed ++ (whole ++ '.' :: fraction) ++ power =
          signed ++ (whole ++ (['.'] ++ (fraction ++ power))) := by simp
      rw [hparts]
      simp only [List.map_append]
      exact (spaced_sign hsigned ' ').append fun last => (hwhole last).append fun last =>
        (spaced_symbol (by decide) (by decide) last).append fun last =>
          (hfraction last).append hpower
    · rw [splitSign_of_mem_sign hsigned fun _ => hplain.head_not_sign]
      exact hplain
  · rintro ⟨plain, hspaced, hpointed⟩
    obtain ⟨signed, hsigned, hplain⟩ := exists_sign plain
    obtain ⟨whole, fraction, power, hrest, hwhole, hfraction, hsome, hpower⟩ := hpointed
    rw [hplain, hrest] at hspaced
    refine unmaps_decimal inner ?_
    -- the text falls apart as its plain form does, from the left to the right
    obtain ⟨front, unsigned, hinner, hfront, hunsigned⟩ := hspaced.split
    obtain ⟨rfl, hlast⟩ := eq_sign_of_spaced hsigned (by decide) hfront
    obtain ⟨whole', fromPoint, rfl, hwhole', hfromPoint⟩ := hunsigned.split
    obtain ⟨afterPoint, rfl, hafterPoint⟩ := hfromPoint.exists_cons (by decide)
    obtain ⟨fraction', power', rfl, hfraction', hpower'⟩ := hafterPoint.split
    obtain ⟨hwholeAny, -, hwholeNil⟩ := anyDigits_of_spaced hwhole' hlast hwhole
    obtain ⟨hfractionAny, -, hfractionNil⟩ :=
      anyDigits_of_spaced hfraction' (by decide) hfraction
    have hpointed : whole' ++ '.' :: fraction' ∈ point :=
      mem_point.mpr ⟨whole', fraction', rfl, hwholeAny, hfractionAny,
        hsome.imp (mt hwholeNil.mp) (mt hfractionNil.mp)⟩
    have hparts : front ++ (whole' ++ '.' :: (fraction' ++ power')) =
        front ++ (whole' ++ '.' :: fraction') ++ power' := by simp
    rw [hinner, hparts]
    exact Language.append_mem_mul (Language.append_mem_mul hsigned hpointed)
      (mem_exponent_of_spaced hpower' hpower)

theorem point_mem_splitSign (hpoint : '.' ∈ text)
    (h : Spaced ' ' ((trimWhile isNumberPadding text).map plainDigit) plain) :
    '.' ∈ (splitSign plain).2 := by
  obtain ⟨before, after, htext, hbefore, hafter⟩ := exists_padding isNumberPadding text
  have hinner : '.' ∈ trimWhile isNumberPadding text := by
    rw [htext, List.mem_append, List.mem_append] at hpoint
    rcases hpoint with (hpoint | hpoint) | hpoint
    · exact absurd (hbefore '.' hpoint) (by decide)
    · exact hpoint
    · exact absurd (hafter '.' hpoint) (by decide)
  have hplain : '.' ∈ plain := by
    refine h.mem (List.mem_map.mpr ⟨'.', hinner, ?_⟩) (by decide)
    exact plainDigit_of_not_isDecimal (by decide)
  obtain ⟨signed, hsigned, hsplit⟩ := exists_sign plain
  rw [hsplit, List.mem_append] at hplain
  have hsign : Avoids (· == '.') sign := Avoids.sign (by decide) (by decide)
  exact hplain.resolve_left fun hmem => absurd (hsign signed hsigned '.' hmem) (by decide)

theorem ofText?_isSome_iff {text : String} (hpoint : '.' ∈ text.toList) :
    (Binary64.ofText? text).isSome = true ↔ text.toList ∈ decimal := by
  rw [decimal, mem_padded_iff avoids_padding.2, mem_decimal_iff]
  unfold Binary64.ofText? Reading.normalize
  have hspaced : ∀ plain,
      Spaced ' ' ((trimWhile isNumberPadding text.toList).map plainDigit) plain ↔
      dropUnderscores ' ' ((trimWhile isNumberPadding text.toList).map plainDigit) = some plain :=
    fun _ => (dropUnderscores_eq_some_iff (by decide)).symm
  cases hdrop : dropUnderscores ' ' ((trimWhile isNumberPadding text.toList).map plainDigit) with
  | none => simp [hspaced, hdrop]
  | some plain =>
    have hrest := point_mem_splitSign hpoint ((hspaced plain).mpr hdrop)
    simp only [hspaced, hdrop, Option.bind_eq_bind, Option.bind_some, Option.some.injEq,
      exists_eq_left', special?_of_point hrest, unsigned?_isSome_iff hrest]

/-! ## Numerals -/

/-- There is a point in every decimal number and in no integer. -/
theorem point_mem_of_mem_decimal (h : text ∈ decimal) : '.' ∈ text := by
  obtain ⟨_, hfront, after, -, rfl⟩ := Language.mem_mul.mp h
  obtain ⟨before, -, _, hinner, rfl⟩ := Language.mem_mul.mp hfront
  obtain ⟨_, hsigned, power, -, rfl⟩ := Language.mem_mul.mp hinner
  obtain ⟨signed, -, _, hpointed, rfl⟩ := Language.mem_mul.mp hsigned
  obtain ⟨whole, fraction, rfl, -⟩ := mem_point.mp hpointed
  simp

theorem point_notMem_of_mem_integer (h : text ∈ integer) : '.' ∉ text := by
  have hpadding : Avoids (· == '.') padding := by
    intro word hword c hc
    rw [beq_eq_false_iff_ne]
    rintro rfl
    exact absurd (hword '.' hc) (by decide)
  have hdigits : Avoids (· == '.') digits := by
    refine Avoids.digits (fun c hc => ?_) (by decide)
    rw [beq_eq_false_iff_ne]
    rintro rfl
    exact absurd hc (by decide)
  have hfew : Avoids (· == '.') fewDigits := fun word hword => hdigits word hword.1
  have hsign : Avoids (· == '.') sign := Avoids.sign (by decide) (by decide)
  intro hmem
  exact absurd (((hpadding.mul (hsign.mul hfew)).mul hpadding) text h '.' hmem) (by decide)

/-- A text counts as a number exactly if it is a numeral. -/
theorem number?_toNumeric_isSome_iff (text : String) :
    (Value.text text).toNumeric.number?.isSome = true ↔ text.toList ∈ numeral := by
  rw [numeral, Language.mem_add]
  by_cases hpoint : '.' ∈ text.toList
  · rw [or_iff_right fun h => point_notMem_of_mem_integer h hpoint, ← ofText?_isSome_iff hpoint,
      Value.toNumeric, if_pos (by simpa using hpoint)]
    cases Binary64.ofText? text <;> rfl
  · rw [or_iff_left fun h => hpoint (point_mem_of_mem_decimal h), ← integerOfText?_isSome_iff,
      Value.toNumeric, if_neg (by simpa using hpoint)]
    cases integerOfText? text <;> rfl

end Numeral

end ScriptStudio
