import ScriptStudio.Proofs.NumeralReading
import ScriptStudio.Proofs.ShortestDigits

/-!
# Numbers that become text

The text of a number reads as that number again, but for the 64-bit numbers whose text has one digit
and an exponent: such a text has no point, so it is taken for an integer, and it is none.

* `Reading.digitsToNat_append`, `Binary64.ofDecimal_eq`: the value that digits stand for.
* `Reading.PointForm`, `Binary64.ofText?_of_pointForm`: texts with a point, and how they are read.
* `Decimal.pointForm_positional`, `Decimal.pointForm_scientific`: the layouts of a fraction.
* `Decimal.IsBare`, `Binary64.isBare_finite_iff`: the digits that are written without a point.
* `Number.IsBare`, `Number.toNumeric_said`: which numbers survive.
-/

namespace ScriptStudio

/-! ## Digits -/

namespace Reading

theorem digitsToNat_eq (digits : List Char) : digitsToNat digits = Nat.ofDigitChars 10 digits 0 :=
  rfl

theorem digitsToNat_append (front back : List Char) :
    digitsToNat (front ++ back) = 10 ^ back.length * digitsToNat front + digitsToNat back := by
  rw [digitsToNat_eq, Nat.ofDigitChars_append, Nat.ofDigitChars_eq_ofDigitChars_zero]
  rfl

theorem digitsToNat_toDigits (n : Nat) : digitsToNat (Nat.toDigits 10 n) = n :=
  Nat.ofDigitChars_ten_toDigits

theorem digitsToNat_zeros (count : Nat) : digitsToNat (List.replicate count '0') = 0 := by
  rw [digitsToNat_eq, Nat.ofDigitChars_replicate_zero, Nat.mul_zero]

theorem digitsToNat_dropZeros (digits : List Char) :
    digitsToNat (digits.dropWhile (· == '0')) = digitsToNat digits := by
  induction digits with
  | nil => rfl
  | cons c rest ih =>
    by_cases hc : c = '0'
    · subst hc
      rw [List.dropWhile_cons_of_pos (by decide), ih]
      rfl
    · rw [List.dropWhile_cons_of_neg (by simpa using hc)]

theorem digitsToNat_lt {digits : List Char} (h : ∀ c ∈ digits, c.isDigit = true) :
    digitsToNat digits < 10 ^ digits.length := by
  induction digits with
  | nil => decide
  | cons c rest ih =>
    have hc : digitsToNat [c] ≤ 9 := by
      have hrange : 48 ≤ c.toNat ∧ c.toNat ≤ 57 :=
        Char.isDigit_iff_toNat.mp (h c List.mem_cons_self)
      simp only [digitsToNat, List.foldl_cons, List.foldl_nil]
      omega
    have hrest := ih fun d hd => h d (List.mem_cons_of_mem c hd)
    rw [← List.singleton_append, digitsToNat_append, List.length_append, Nat.pow_add]
    have hscaled := Nat.mul_le_mul_left (10 ^ rest.length) hc
    simp only [List.length_singleton]
    omega

theorem length_toDigits_le {n limit : Nat} (hlimit : 0 < limit) (h : n < Nat.pow 10 limit) :
    (Nat.toDigits 10 n).length ≤ limit :=
  (Nat.length_toDigits_le_iff (by decide) hlimit).mpr h

theorem isDigit_zeros (count : Nat) : ∀ c ∈ List.replicate count '0', c.isDigit = true := by
  intro c hc
  rw [List.eq_of_mem_replicate hc]
  rfl

theorem isDigit_toDigits {n : Nat} {c : Char} (hc : c ∈ Nat.toDigits 10 n) : c.isDigit = true :=
  Nat.isDigit_of_mem_toDigits (by decide) (by decide) hc

theorem exists_toDigits (n : Nat) : ∃ c rest,
    Nat.toDigits 10 n = c :: rest ∧ c.isDigit = true ∧ ∀ d ∈ rest, d.isDigit = true := by
  obtain ⟨c, rest, hdigits⟩ := List.exists_cons_of_ne_nil (Nat.toDigits_ne_nil (n := n))
  have hall : ∀ d ∈ c :: rest, d.isDigit = true := hdigits ▸ fun d hd => isDigit_toDigits hd
  exact ⟨c, rest, hdigits, List.forall_mem_cons.mp hall⟩

end Reading

/-! ## Rounding without shortcuts -/

namespace Binary64

open Decimal

variable {x : Decimal}

theorem rank_of_digits_zero (h : x.digits = 0) : x.rank = 0 := by
  have hzero : (⟨0, 0⟩ : Decimal).rank = 0 := by decide +kernel
  rw [← hzero]
  refine rank_congr ?_
  simp [value, h]

theorem infiniteRank_le_rank (hdigits : x.digits ≠ 0) (h : 400 < x.exponent) :
    infiniteRank ≤ x.rank := by
  have hbound : infiniteRank ≤ (⟨1, 400⟩ : Decimal).rank := by decide +kernel
  refine hbound.trans (rank_mono ?_)
  have hleast : (1 : ℚ) ≤ x.digits := by exact_mod_cast Nat.pos_of_ne_zero hdigits
  have hpower : (10 : ℚ) ^ (400 : Int) ≤ 10 ^ x.exponent := zpow_le_zpow_right₀ (by decide) h.le
  rw [value_one, value]
  exact hpower.trans (le_mul_of_one_le_left (by positivity) hleast)

theorem rank_eq_zero_of_small {length : Nat} (hdigits : x.digits < 10 ^ length)
    (h : x.exponent + length < -400) : x.rank = 0 := by
  have hbound : (⟨1, -401⟩ : Decimal).rank = 0 := by decide +kernel
  refine Nat.le_zero.mp (hbound ▸ rank_mono ?_)
  have hmost : (x.digits : ℚ) ≤ 10 ^ (length : Int) := by
    rw [zpow_natCast]
    exact_mod_cast hdigits.le
  rw [value_one, value]
  calc (x.digits : ℚ) * 10 ^ x.exponent
      ≤ 10 ^ (length : Int) * 10 ^ x.exponent :=
        mul_le_mul_of_nonneg_right hmost (by positivity)
    _ = 10 ^ (length + x.exponent) := (zpow_add₀ (by norm_num) _ _).symm
    _ ≤ 10 ^ (-401 : Int) := zpow_le_zpow_right₀ (by norm_num) (by omega)

theorem ofRank_zero (negative : Bool) : ofRank negative 0 = zero negative := by
  rw [ofRank, dif_pos (by decide : 0 < infiniteRank)]
  rfl

/-- The powers of ten that are not computed make no difference. -/
theorem ofDecimal_eq (negative : Bool) {length : Nat} (h : x.digits < 10 ^ length) :
    ofDecimal negative length x = ofRank negative x.rank := by
  unfold ofDecimal
  split_ifs with hzero hlong hlarge hsmall
  · rw [rank_of_digits_zero hzero, ofRank_zero]
  · rw [ofRank, dif_neg (Nat.not_lt.mpr (infiniteRank_le_rank hzero hlarge))]
  · rfl
  · rw [rank_eq_zero_of_small h hsmall, ofRank_zero]
  · rfl

end Binary64

/-! ## Texts with a point -/

namespace Reading

open Numeral Text

/-- The characters of the texts of numbers. -/
def isNumberChar (c : Char) : Bool := c.isDigit || ['-', '+', '.', 'e'].contains c

variable {c : Char} {power : List Char} {exponent : Int}

theorem isNumberChar_of_isDigit (h : c.isDigit = true) : isNumberChar c = true := by
  simp [isNumberChar, h]

theorem plainDigit_of_isDigit (h : c.isDigit = true) : plainDigit c = c := by
  have hrange : 48 ≤ c.toNat ∧ c.toNat ≤ 57 := Char.isDigit_iff_toNat.mp h
  have hascii : c.toNat < 128 := by omega
  have hvalue : digitValue? c = some (c.toNat - 48) := by simp [digitValue?, hascii, h]
  rw [plainDigit, hvalue]
  dsimp only
  rw [Nat.add_sub_cancel' hrange.1, Char.ofNat_toNat]

theorem isNumberChar_spec (h : isNumberChar c = true) :
    isNumberPadding c = false ∧ plainDigit c = c ∧ c ≠ '_' := by
  simp only [isNumberChar, Bool.or_eq_true, List.contains_iff_mem, List.mem_cons,
    List.not_mem_nil, or_false] at h
  rcases h with hdigit | hsymbol
  · exact ⟨isNumberPadding_of_isDecimal (isDecimal_of_isDigit hdigit), plainDigit_of_isDigit hdigit,
      ne_underscore_of_isDigit hdigit⟩
  · have hsymbols : isNumberPadding c = false ∧ isDecimal c = false ∧ c ≠ '_' := by
      rcases hsymbol with rfl | rfl | rfl | rfl <;> decide
    exact ⟨hsymbols.1, plainDigit_of_not_isDecimal hsymbols.2.1, hsymbols.2.2⟩

/-- A text of such characters is read as it stands. -/
theorem dropUnderscores_normalize {text : String}
    (h : ∀ c ∈ text.toList, isNumberChar c = true) :
    dropUnderscores ' ' (normalize text) = some text.toList := by
  have htrim : trimWhile isNumberPadding text.toList = text.toList :=
    trimWhile_eq_self fun c hc => (isNumberChar_spec (h c hc)).1
  have hmap : text.toList.map plainDigit = text.toList :=
    (List.map_congr_left fun c hc => (isNumberChar_spec (h c hc)).2.1).trans (List.map_id _)
  rw [normalize, htrim, hmap]
  exact dropUnderscores_eq_self (by decide) fun hmem => (isNumberChar_spec (h '_' hmem)).2.2 rfl

theorem point_notMem_digits {digits : List Char} (h : ∀ c ∈ digits, c.isDigit = true) :
    '.' ∉ digits :=
  fun hpoint => absurd (h '.' hpoint) (by decide)

/-- A power of ten as it is written after the digits, and its exponent. -/
inductive Power : List Char → Int → Prop
  | none : Power [] 0
  | some (negative : Bool) {digits : List Char} (hdigits : ∀ c ∈ digits, c.isDigit = true)
    (hsome : digits ≠ []) : Power ('e' :: (if negative then '-' else '+') :: digits)
      (if negative then -digitsToNat digits else digitsToNat digits)

theorem Power.isPower (h : Power power exponent) : IsPower power := by
  cases h with
  | none => exact .inl rfl
  | some negative hdigits hsome =>
    refine .inr ⟨'e', [if negative then '-' else '+'], _, rfl, .inl rfl, ?_, hsome, hdigits⟩
    cases negative
    · exact mem_sign.mpr (.inr (.inr rfl))
    · exact mem_sign.mpr (.inr (.inl rfl))

theorem Power.exponent?_eq (h : Power power exponent) : exponent? power = .some exponent := by
  cases h with
  | none => rfl
  | @some negative digits hdigits hsome =>
    have hall : digits.all Char.isDigit = true := List.all_eq_true.mpr hdigits
    have hempty : digits.isEmpty = false := List.isEmpty_eq_false_iff.mpr hsome
    cases negative <;> simp [exponent?, splitSign, hall, hempty]

theorem Power.isNumberChar {power : List Char} {exponent : Int} (h : Power power exponent) :
    ∀ c ∈ power, isNumberChar c = true := by
  cases h with
  | none => exact List.forall_mem_nil _
  | some negative hdigits hsome =>
    refine List.forall_mem_cons.mpr ⟨rfl, List.forall_mem_cons.mpr ⟨?_, ?_⟩⟩
    · cases negative <;> rfl
    · exact fun c hc => isNumberChar_of_isDigit (hdigits c hc)

theorem Power.point_notMem (h : Power power exponent) : '.' ∉ power := by
  cases h with
  | none => exact List.not_mem_nil
  | some negative hdigits hsome =>
    have hpoint := point_notMem_digits hdigits
    cases negative <;> simpa using hpoint

/-- The text has a point behind its first digits, and stands for a fraction. -/
inductive PointForm : List Char → Decimal → Prop
  | intro {whole fraction power : List Char} {exponent : Int} {x : Decimal}
    (hwhole : ∀ c ∈ whole, c.isDigit = true) (hsome : whole ≠ [])
    (hfraction : ∀ c ∈ fraction, c.isDigit = true) (hpower : Power power exponent)
    (hvalue : (⟨digitsToNat (whole ++ fraction), exponent - fraction.length⟩ : Decimal).value =
      x.value) : PointForm (whole ++ '.' :: (fraction ++ power)) x

namespace PointForm

variable {text : List Char} {x : Decimal}

theorem of_digits {whole fraction : List Char} (hwhole : ∀ c ∈ whole, c.isDigit = true)
    (hsome : whole ≠ []) (hfraction : ∀ c ∈ fraction, c.isDigit = true)
    (hvalue : (⟨digitsToNat (whole ++ fraction), -fraction.length⟩ : Decimal).value = x.value) :
    PointForm (whole ++ '.' :: fraction) x := by
  rw [← Int.zero_sub] at hvalue
  simpa using PointForm.intro hwhole hsome hfraction .none hvalue

theorem mem_point (h : PointForm text x) : '.' ∈ text := by
  cases h
  simp

theorem isNumberChar (h : PointForm text x) : ∀ c ∈ text, isNumberChar c = true := by
  cases h with
  | intro hwhole hsome hfraction hpower hvalue =>
    simp only [List.forall_mem_append, List.forall_mem_cons]
    exact ⟨fun c hc => isNumberChar_of_isDigit (hwhole c hc), rfl,
      fun c hc => isNumberChar_of_isDigit (hfraction c hc), hpower.isNumberChar⟩

theorem exists_isDigit (h : PointForm text x) : ∃ c rest, text = c :: rest ∧ c.isDigit = true := by
  cases h with
  | @intro whole fraction power exponent _ hwhole hsome hfraction hpower hvalue =>
    obtain ⟨c, rest, rfl⟩ := List.exists_cons_of_ne_nil hsome
    exact ⟨c, _, rfl, hwhole c List.mem_cons_self⟩

/-- The text is read as the number nearest to the fraction. -/
theorem unsigned?_eq (h : PointForm text x) (negative : Bool) :
    unsigned? negative text = some (Binary64.ofRank negative x.rank) := by
  cases h with
  | @intro whole fraction power exponent _ hwhole hsome hfraction hpower hvalue =>
    have hpoint : ∀ c, ('.' :: (fraction ++ power)).head? = some c → c.isDigit = false := by
      rintro c ⟨⟩
      rfl
    obtain ⟨htake, hdrop⟩ := takeWhile_dropWhile_digits hwhole hpoint
    obtain ⟨htake', hdrop'⟩ :=
      takeWhile_dropWhile_digits hfraction fun _ => hpower.isPower.head_not_isDigit
    have hdigits : ∀ c ∈ (whole ++ fraction).dropWhile (· == '0'), c.isDigit = true := by
      intro c hc
      have hmem := (List.dropWhile_suffix _).subset hc
      exact (List.mem_append.mp hmem).elim (hwhole c) (hfraction c)
    have hshorter : (fraction ++ power).length < ('.' :: (fraction ++ power)).length :=
      Nat.lt_succ_self _
    have hempty : whole.isEmpty = false := List.isEmpty_eq_false_iff.mpr hsome
    unfold unsigned?
    simp only [htake, hdrop, htake', hdrop', hshorter, if_true, hempty, Bool.false_and,
      Bool.false_eq_true, if_false, hpower.exponent?_eq, Option.map_some]
    rw [Binary64.ofDecimal_eq negative (digitsToNat_lt hdigits), digitsToNat_dropZeros,
      Decimal.rank_congr hvalue]

end PointForm

/-- The sign in front of a number. -/
def signChars (negative : Bool) : List Char := if negative then ['-'] else []

theorem point_notMem_signed (negative : Bool) {text : List Char} (h : '.' ∉ text) :
    '.' ∉ signChars negative ++ text := by
  cases negative <;> simpa [signChars] using h

theorem splitSign_signChars (negative : Bool) (hc : c.isDigit = true) (rest : List Char) :
    splitSign (signChars negative ++ c :: rest) = (negative, c :: rest) := by
  cases negative
  · exact splitSign_of_isDigit hc rest
  · rfl

theorem isNumberChar_signed (negative : Bool) {text : List Char}
    (h : ∀ c ∈ text, isNumberChar c = true) :
    ∀ c ∈ signChars negative ++ text, isNumberChar c = true := by
  refine List.forall_mem_append.mpr ⟨?_, h⟩
  cases negative
  · exact List.forall_mem_nil _
  · exact List.forall_mem_singleton.mpr rfl

end Reading

open Reading Numeral

variable {negative : Bool}

/-- A text with a point is read as the number nearest to its fraction. -/
theorem Binary64.ofText?_of_pointForm {text : String} {unsigned : List Char} {x : Decimal}
    (htext : text.toList = signChars negative ++ unsigned) (h : PointForm unsigned x) :
    ofText? text = some (ofRank negative x.rank) := by
  have hchars : ∀ c ∈ text.toList, isNumberChar c = true := by
    rw [htext]
    exact isNumberChar_signed negative h.isNumberChar
  have hsplit : splitSign text.toList = (negative, unsigned) := by
    obtain ⟨c, rest, rfl, hc⟩ := h.exists_isDigit
    rw [htext, splitSign_signChars negative hc]
  unfold ofText?
  simp only [dropUnderscores_normalize hchars, Option.bind_eq_bind, Option.bind_some, hsplit,
    special?_of_point h.mem_point, h.unsigned?_eq]

/-! ## The layouts of a fraction -/

theorem toList_padNumber (width n : Nat) :
    (padNumber width n).toList =
      List.replicate (width - n.repr.length) '0' ++ Nat.toDigits 10 n := by
  simp [padNumber, Nat.toList_repr]

theorem power_padNumber (negative : Bool) (width n : Nat) :
    Power ('e' :: (if negative then '-' else '+') :: (padNumber width n).toList)
      (if negative then -n else n) := by
  have hdigits : ∀ c ∈ (padNumber width n).toList, c.isDigit = true := by
    rw [toList_padNumber]
    exact List.forall_mem_append.mpr ⟨isDigit_zeros _, fun c hc => isDigit_toDigits hc⟩
  have hsome : (padNumber width n).toList ≠ [] := by
    rw [toList_padNumber]
    exact List.append_ne_nil_of_right_ne_nil _ Nat.toDigits_ne_nil
  have hvalue : digitsToNat (padNumber width n).toList = n := by
    rw [toList_padNumber, digitsToNat_append, digitsToNat_zeros, digitsToNat_toDigits, Nat.mul_zero,
      Nat.zero_add]
  simpa only [hvalue] using Power.some negative hdigits hsome

namespace Decimal

/-- The exponent as it is written behind the digits. -/
def powerText (layout : NumberLayout) (exponent : Int) : List Char :=
  'e' :: (if exponent < 0 then '-' else '+') ::
    (padNumber layout.exponentWidth exponent.natAbs).toList

theorem power_powerText (layout : NumberLayout) (exponent : Int) :
    Power (powerText layout exponent) exponent := by
  have hpower := power_padNumber (decide (exponent < 0)) layout.exponentWidth exponent.natAbs
  have hexponent :
      (if exponent < 0 then -(exponent.natAbs : Int) else exponent.natAbs) = exponent := by
    split <;> omega
  simpa only [powerText, decide_eq_true_eq, hexponent] using hpower

theorem pointForm_positional (x : Decimal) : PointForm x.positional.toList x := by
  have hsome : Nat.toDigits 10 x.digits ≠ [] := Nat.toDigits_ne_nil
  have hdigits : ∀ c ∈ Nat.toDigits 10 x.digits, c.isDigit = true := fun c hc => isDigit_toDigits hc
  have hvalue : digitsToNat (Nat.toDigits 10 x.digits) = x.digits := digitsToNat_toDigits x.digits
  unfold positional
  simp only [Nat.toList_repr]
  generalize Nat.toDigits 10 x.digits = digits at hsome hdigits hvalue
  have hlength : 0 < digits.length := List.length_pos_iff.mpr hsome
  split_ifs with hsmall hwhole
  -- All digits stand behind the point.
  · have hzeros := List.forall_mem_append.mpr
      ⟨isDigit_zeros (-(digits.length + x.exponent)).toNat, hdigits⟩
    rw [String.toList_append, String.toList_ofList (l := _ ++ digits)]
    change PointForm (['0'] ++ '.' :: (_ ++ digits)) x
    refine .of_digits (List.forall_mem_singleton.mpr rfl) (List.cons_ne_nil '0' []) hzeros ?_
    have hexponent : -((List.replicate (-(digits.length + x.exponent)).toNat '0' ++ digits).length :
        Int) = x.exponent := by
      rw [List.length_append, List.length_replicate]
      omega
    rw [value, value, digitsToNat_append, digitsToNat_append, digitsToNat_zeros, hvalue, hexponent]
    simp [digitsToNat]
  -- All digits stand before the point, and one zero is written behind it.
  · rw [String.toList_append, String.toList_ofList]
    change PointForm (digits ++ _ ++ '.' :: ['0']) x
    refine .of_digits (List.forall_mem_append.mpr ⟨hdigits, isDigit_zeros _⟩)
      (List.append_ne_nil_of_left_ne_nil hsome _) (List.forall_mem_singleton.mpr rfl) ?_
    have hexponent : x.exponent = (x.exponent.toNat : Int) := (Int.toNat_of_nonneg hwhole).symm
    generalize x.exponent.toNat = count at hexponent
    have hzero : digitsToNat ['0'] = 0 := rfl
    rw [value, value, digitsToNat_append, digitsToNat_append, digitsToNat_zeros, hzero, hvalue,
      hexponent, zpow_natCast, List.length_replicate]
    push_cast [List.length_singleton]
    rw [zpow_neg_one]
    ring
  -- The point falls among the digits.
  · simp only [String.toList_append, String.toList_ofList, List.append_assoc]
    change PointForm (digits.take _ ++ '.' :: digits.drop _) x
    refine .of_digits (fun c hc => hdigits c (List.mem_of_mem_take hc)) ?_
      (fun c hc => hdigits c (List.mem_of_mem_drop hc)) ?_
    · rw [← List.length_pos_iff, List.length_take]
      omega
    · have hexponent : -((digits.drop (digits.length + x.exponent).toNat).length : Int) =
          x.exponent := by
        rw [List.length_drop]
        omega
      rw [value, value, List.take_append_drop, hvalue, hexponent]

variable {x : Decimal}

/-- The digits of the mantissa and the power behind them. -/
theorem toList_scientific (layout : NumberLayout) {c : Char} {rest : List Char}
    (h : Nat.toDigits 10 x.digits = c :: rest) :
    (x.scientific layout).toList =
      c :: (if rest = [] then [] else '.' :: rest) ++
        powerText layout (rest.length + x.exponent) := by
  have hexponent : ((c :: rest).length : Int) + x.exponent - 1 = rest.length + x.exponent := by
    rw [List.length_cons]
    omega
  have hsign (e : Int) : (if e < 0 then "-" else "+").toList = [if e < 0 then '-' else '+'] := by
    split <;> rfl
  unfold scientific
  simp only [Nat.toList_repr, h, hexponent, String.toList_append, hsign]
  cases rest <;> simp [powerText]

theorem pointForm_scientific (layout : NumberLayout) (h : 10 ≤ x.digits) :
    PointForm (x.scientific layout).toList x := by
  obtain ⟨c, rest, hdigits, hc, hrest⟩ := exists_toDigits x.digits
  have hsome : rest ≠ [] := by
    rintro rfl
    have hlength := (Nat.length_toDigits_le_iff (by decide) (by decide : 0 < 1)).mp
      (congrArg List.length hdigits).le
    omega
  rw [toList_scientific layout hdigits, if_neg hsome]
  refine PointForm.intro (List.forall_mem_singleton.mpr hc) (List.cons_ne_nil c []) hrest
    (power_powerText layout _) ?_
  rw [List.singleton_append, ← hdigits, digitsToNat_toDigits, add_sub_cancel_left]

theorem toList_scientific_of_digit (layout : NumberLayout) (h : x.digits ≤ 9) :
    (x.scientific layout).toList = x.digits.digitChar :: powerText layout x.exponent := by
  have hdigits : Nat.toDigits 10 x.digits = [x.digits.digitChar] :=
    Nat.toDigits_of_lt_base (by omega)
  simpa using toList_scientific layout hdigits

theorem value_le_value {y : Decimal} (hdigits : x.digits ≤ y.digits)
    (hexponent : x.exponent ≤ y.exponent) : x.value ≤ y.value := by
  have hpower : (10 : ℚ) ^ x.exponent ≤ 10 ^ y.exponent :=
    zpow_le_zpow_right₀ (by norm_num) hexponent
  exact mul_le_mul (by exact_mod_cast hdigits) hpower (by positivity) (by positivity)

/-- One digit, so far from the point that it is written with an exponent. -/
def IsBare (x : Decimal) : Prop :=
  (1 ≤ x.digits ∧ x.digits ≤ 9) ∧ (x.exponent < -4 ∨ 15 < x.exponent)

instance (x : Decimal) : Decidable x.IsBare := inferInstanceAs (Decidable (_ ∧ _))

theorem text_script (x : Decimal) : x.text .script =
    if -4 ≤ x.digits.repr.length + x.exponent - 1 ∧ x.digits.repr.length + x.exponent - 1 ≤ 15 then
      x.positional
    else x.scientific .script := by
  simp only [text, Bool.and_eq_true, decide_eq_true_eq]
  rfl

theorem length_repr_of_digit {n : Nat} (h : n ≤ 9) : n.repr.length = 1 := by
  rw [← String.length_toList, Nat.toList_repr, Nat.toDigits_of_lt_base (by omega)]
  rfl

theorem pointForm_text (hdigits : 0 < x.digits) (h : ¬x.IsBare) :
    PointForm (x.text .script).toList x := by
  rw [text_script]
  split_ifs with hnear
  · exact pointForm_positional x
  · refine pointForm_scientific _ ?_
    by_contra hshort
    have hdigit : x.digits ≤ 9 := by omega
    rw [length_repr_of_digit hdigit] at hnear
    exact h ⟨⟨hdigits, hdigit⟩, by omega⟩

theorem toList_text_of_isBare (h : x.IsBare) :
    (x.text .script).toList = x.digits.digitChar :: powerText .script x.exponent := by
  obtain ⟨hdigit, hexponent⟩ := h
  rw [text_script, length_repr_of_digit hdigit.2, if_neg (by omega),
    toList_scientific_of_digit _ hdigit.2]

theorem IsBare.of_rank_eq {y : Decimal} (hx : x.IsBare) (hy : 1 ≤ y.digits ∧ y.digits ≤ 9)
    (h : x.rank = y.rank) : y.IsBare := by
  refine ⟨hy, ?_⟩
  by_contra hnear
  -- Rounding is monotone, so it is enough to look at the digits on either side of the two bounds.
  obtain ⟨hdigit, hsmall | hlarge⟩ := hx
  · have hgap : (⟨9, -5⟩ : Decimal).rank < (⟨1, -4⟩ : Decimal).rank := by decide +kernel
    have hbelow : x.rank ≤ (⟨9, -5⟩ : Decimal).rank :=
      rank_mono (value_le_value hdigit.2 (show x.exponent ≤ -5 by omega))
    have habove : (⟨1, -4⟩ : Decimal).rank ≤ y.rank :=
      rank_mono (value_le_value hy.1 (show -4 ≤ y.exponent by omega))
    omega
  · have hgap : (⟨9, 15⟩ : Decimal).rank < (⟨1, 16⟩ : Decimal).rank := by decide +kernel
    have hbelow : y.rank ≤ (⟨9, 15⟩ : Decimal).rank :=
      rank_mono (value_le_value hy.2 (show y.exponent ≤ 15 by omega))
    have habove : (⟨1, 16⟩ : Decimal).rank ≤ x.rank :=
      rank_mono (value_le_value hdigit.1 (show 16 ≤ x.exponent by omega))
    omega

end Decimal

/-! ## The texts of numbers -/

namespace Binary64

/-- The number is nearest to a bare digit. -/
def IsBare (x : Binary64) : Prop :=
  x.isZero = false ∧ ∃ (negative : Bool) (digit : Decimal),
    digit.IsBare ∧ x = ofDecimal negative 1 digit

/-- The text of a magnitude. -/
def magnitudeText (rank : Nat) : String :=
  if rank = 0 then "0.0" else (shortestOfRank rank).text .script

theorem toList_text_finite (negative : Bool) (rank : Fin infiniteRank) :
    (finite negative rank).text.toList = signChars negative ++ (magnitudeText rank).toList := by
  cases negative <;> simp [text, magnitudeText, signChars]

theorem ofRank_val (negative : Bool) (rank : Fin infiniteRank) :
    ofRank negative rank = finite negative rank := by
  rw [ofRank, dif_pos rank.isLt]

variable {rank : Fin infiniteRank}

theorem rank_eq_of_ofRank_eq {negative' : Bool} {n : Nat}
    (h : finite negative rank = ofRank negative' n) : n = rank := by
  unfold ofRank at h
  split_ifs at h
  cases h
  rfl

theorem digits_shortestOfRank_pos {rank : Nat} (hpositive : 0 < rank)
    (hrank : rank < infiniteRank) :
    0 < (shortestOfRank rank).digits := by
  refine Nat.pos_of_ne_zero fun hzero => hpositive.ne' ?_
  rw [← rank_shortestOfRank hpositive hrank, rank_of_digits_zero hzero]

/-- A number is bare as soon as its shortest digits are. -/
theorem isBare_finite_iff (negative : Bool) (hpositive : 0 < rank.val) :
    (finite negative rank).IsBare ↔ (shortestOfRank rank).IsBare := by
  have hround := rank_shortestOfRank hpositive rank.isLt
  constructor
  · rintro ⟨-, negative', digit, hbare, hdigit⟩
    rw [ofDecimal_eq negative' (Nat.lt_succ_of_le hbare.1.2)] at hdigit
    have hrank := rank_eq_of_ofRank_eq hdigit
    exact hbare.of_rank_eq (digits_shortestOfRank hpositive rank.isLt hbare.1 hrank)
      (hrank.trans hround.symm)
  · intro hbare
    refine ⟨by simpa [isZero] using hpositive.ne', negative, _, hbare, ?_⟩
    rw [ofDecimal_eq negative (Nat.lt_succ_of_le hbare.1.2), hround, ofRank_val]

/-- The text of a number that is not bare is read as the number. -/
theorem ofText?_text (h : ¬(finite negative rank).IsBare) :
    '.' ∈ (finite negative rank).text.toList ∧
      ofText? (finite negative rank).text = some (finite negative rank) := by
  obtain ⟨x, hform, hrank⟩ : ∃ x, PointForm (magnitudeText rank).toList x ∧ x.rank = rank := by
    rcases Nat.eq_zero_or_pos rank.val with hzero | hpositive
    · refine ⟨⟨0, 0⟩, ?_, ?_⟩
      · rw [magnitudeText, if_pos hzero]
        exact Decimal.pointForm_positional ⟨0, 0⟩
      · rw [rank_of_digits_zero rfl, hzero]
    · refine ⟨shortestOfRank rank, ?_, rank_shortestOfRank hpositive rank.isLt⟩
      rw [magnitudeText, if_neg hpositive.ne']
      exact Decimal.pointForm_text (digits_shortestOfRank_pos hpositive rank.isLt)
        fun hbare => h ((isBare_finite_iff negative hpositive).mpr hbare)
  have htext := toList_text_finite negative rank
  refine ⟨htext ▸ List.mem_append_right _ hform.mem_point, ?_⟩
  rw [ofText?_of_pointForm htext hform, hrank, ofRank_val]

end Binary64

/-- How an integer is read from the characters of numbers. -/
theorem integerOfText?_eq {text : String} {c : Char} {rest : List Char}
    (htext : text.toList = signChars negative ++ c :: rest) (hc : c.isDigit = true)
    (hrest : ∀ d ∈ rest, isNumberChar d = true) :
    integerOfText? text =
      if !rest.all Char.isDigit || integerDigitLimit < (c :: rest).length then none
      else if negative then some (-(digitsToNat (c :: rest) : Int))
      else some (digitsToNat (c :: rest)) := by
  have hchars : ∀ d ∈ text.toList, isNumberChar d = true := by
    rw [htext]
    exact isNumberChar_signed negative
      (List.forall_mem_cons.mpr ⟨isNumberChar_of_isDigit hc, hrest⟩)
  unfold integerOfText?
  simp only [dropUnderscores_normalize hchars, Option.bind_eq_bind, Option.bind_some, htext,
    splitSign_signChars negative hc, List.isEmpty_cons, List.all_cons, hc, Bool.false_or,
    Bool.true_and]

/-- An integer that can be written is read again. -/
theorem integerOfText?_integerText {n : Int} (h : n.natAbs < Nat.pow 10 integerDigitLimit) :
    ∃ text, integerText n = .ok text ∧ '.' ∉ text.toList ∧ integerOfText? text = some n := by
  refine ⟨_, if_neg (Nat.not_le.mpr h), ?_⟩
  obtain ⟨c, rest, hdigits, hc, hrest⟩ := exists_toDigits n.natAbs
  have htext : (if n < 0 then "-" ++ n.natAbs.repr else n.natAbs.repr).toList =
      signChars (decide (n < 0)) ++ c :: rest := by
    rw [← hdigits, ← Nat.toList_repr]
    by_cases hsign : n < 0 <;> simp [hsign, signChars]
  constructor
  · rw [htext]
    exact point_notMem_signed _ (point_notMem_digits (List.forall_mem_cons.mpr ⟨hc, hrest⟩))
  · have hlength : (c :: rest).length ≤ integerDigitLimit := by
      rw [← hdigits]
      exact length_toDigits_le (by decide) h
    have hvalue : digitsToNat (c :: rest) = n.natAbs := by rw [← hdigits, digitsToNat_toDigits]
    rw [integerOfText?_eq htext hc fun d hd => isNumberChar_of_isDigit (hrest d hd), hvalue,
      List.all_eq_true.mpr hrest, decide_eq_false (Nat.not_lt.mpr hlength)]
    by_cases hsign : n < 0
    · simp only [hsign, decide_true, Bool.not_true, Bool.or_self, Bool.false_eq_true, if_false,
        if_true]
      exact congrArg some (by omega)
    · simp only [hsign, decide_false, Bool.not_true, Bool.or_self, Bool.false_eq_true, if_false]
      exact congrArg some (by omega)

/-- The text of a bare number has no point, and is no integer. -/
theorem integerOfText?_of_isBare {rank : Fin Binary64.infiniteRank}
    (h : (Binary64.finite negative rank).IsBare) :
    '.' ∉ (Binary64.finite negative rank).text.toList ∧
      integerOfText? (Binary64.finite negative rank).text = none := by
  have hpositive : 0 < rank.val := Nat.pos_of_ne_zero (by simpa [Binary64.isZero] using h.1)
  have hbare := (Binary64.isBare_finite_iff negative hpositive).mp h
  have htext := Binary64.toList_text_finite negative rank
  rw [Binary64.magnitudeText, if_neg hpositive.ne', Decimal.toList_text_of_isBare hbare] at htext
  generalize Binary64.shortestOfRank rank = x at hbare htext
  have hdigit : x.digits.digitChar.isDigit = true := by
    have hdigits := Nat.toDigits_of_lt_base (Nat.lt_succ_of_le hbare.1.2)
    exact isDigit_toDigits (hdigits ▸ List.mem_singleton_self _)
  have hpower := Decimal.power_powerText .script x.exponent
  refine ⟨?_, ?_⟩
  · rw [htext]
    refine point_notMem_signed negative ?_
    simp only [List.mem_cons, not_or]
    exact ⟨fun hpoint => absurd (hpoint ▸ hdigit) (by decide), hpower.point_notMem⟩
  · rw [integerOfText?_eq htext hdigit hpower.isNumberChar]
    rfl

/-! ## Which numbers survive -/

namespace Number

/-- The finite numbers that can be written. -/
def Sayable : Number → Prop
  | .int n => n.natAbs < Nat.pow 10 integerDigitLimit
  | .float x => ∃ negative rank, x = .finite negative rank

/-- The numbers whose text is one digit and an exponent. -/
def IsBare : Number → Prop
  | .int _ => False
  | .float x => x.IsBare

theorem toNumeric_of_point {text : String} {x : Binary64} (hpoint : '.' ∈ text.toList)
    (h : Binary64.ofText? text = some x) : (Value.text text).toNumeric = .float x := by
  simp only [Value.toNumeric, List.contains_iff_mem.mpr hpoint, if_true, h]

theorem toNumeric_of_no_point {text : String} (hpoint : '.' ∉ text.toList) :
    (Value.text text).toNumeric = ((integerOfText? text).map Value.int).getD (.text text) := by
  have hcontains : text.toList.contains '.' = false := by simpa using hpoint
  simp only [Value.toNumeric, hcontains, Bool.false_eq_true, if_false]
  cases integerOfText? text <;> rfl

/-- The text of a number reads as the same number, sign of zero included, unless the number is bare:
the text of a bare number stays a text. -/
theorem toNumeric_said {v : Number} (hv : v.Sayable) :
    ∃ text, (Value.ofNumber v).said = .ok text ∧
      (¬v.IsBare → (Value.text text).toNumeric = Value.ofNumber v) ∧
      (v.IsBare → (Value.text text).toNumeric = .text text) := by
  cases v with
  | int n =>
    obtain ⟨text, hsaid, hpoint, hread⟩ := integerOfText?_integerText hv
    refine ⟨text, hsaid, fun _ => ?_, False.elim⟩
    rw [toNumeric_of_no_point hpoint, hread]
    rfl
  | float x =>
    obtain ⟨negative, rank, rfl⟩ := hv
    refine ⟨_, rfl, fun hpointed => ?_, fun hbare => ?_⟩
    · obtain ⟨hpoint, hread⟩ := Binary64.ofText?_text hpointed
      exact toNumeric_of_point hpoint hread
    · obtain ⟨hpoint, hread⟩ := integerOfText?_of_isBare hbare
      rw [toNumeric_of_no_point hpoint, hread]
      rfl

/-- The least of all finite numbers, which takes all seventeen digits and an exponent. -/
theorem toNumeric_said_least :
    let v : Number := .float (.finite true ⟨Binary64.infiniteRank - 1, by decide⟩)
    v.Sayable ∧ ¬v.IsBare ∧
      ∃ text, (Value.ofNumber v).said = .ok text ∧
        (Value.text text).toNumeric = Value.ofNumber v := by
  intro v
  have hv : v.Sayable := ⟨true, _, rfl⟩
  have hbare : ¬v.IsBare :=
    (Binary64.isBare_finite_iff true (by decide)).not.mpr (by decide +kernel)
  obtain ⟨text, hsaid, hread, -⟩ := toNumeric_said hv
  exact ⟨hv, hbare, text, hsaid, hread hbare⟩

/-- The number `10 ^ 16` becomes a text that is no number any more. -/
theorem toNumeric_said_ten_pow_sixteen :
    let v : Number := .float (.ofDecimal false 2 ⟨1, 16⟩)
    v.Sayable ∧ (Value.ofNumber v).said = .ok "1e+16" ∧
      (Value.text "1e+16").toNumeric = .text "1e+16" ∧
      (Value.text "1e+16").toNumeric ≠ Value.ofNumber v := by
  intro v
  have hread : (Value.text "1e+16").toNumeric = .text "1e+16" := by decide +kernel
  have hsaid : (Binary64.ofDecimal false 2 ⟨1, 16⟩).text = "1e+16" := by decide +kernel
  refine ⟨⟨false, ⟨Decimal.rank ⟨1, 16⟩, by decide +kernel⟩, by decide +kernel⟩,
    congrArg Except.ok hsaid, hread, ?_⟩
  rw [hread]
  exact Value.noConfusion

end Number

end ScriptStudio
