import ScriptStudio.Proofs.ReadingEnds

/-!
# Numerals

The texts that are numbers, as a grammar. An integer has a sign or none and digits of any script, at
most `integerDigitLimit` of them; a single underscore may stand between two digits. A decimal number
has a point between its digits, or at one end of them, and perhaps an exponent. White space may
stand around both.

* `Numeral.Digits`, `Numeral.integer`, `Numeral.decimal`, `Numeral.numeral`: the grammar, as
  languages.
* `Numeral.Unmaps`: digits of other scripts do as well as plain ones.
* `Reading.Spaced`, `Reading.dropUnderscores_eq_some_iff`: a text and what is left of it without its
  underscores.
* `Numeral.mem_padded_iff`: white space around a word.
-/

namespace ScriptStudio

/-! ## The grammar -/

namespace Numeral

open Text

/-- Digits of any script, with single underscores between them. -/
inductive Digits : List Char → Prop
  | one {c : Char} (hc : isDecimal c = true) : Digits [c]
  | next {c : Char} {rest : List Char} (hc : isDecimal c = true) (hrest : Digits rest) :
    Digits (c :: rest)
  | underscore {c : Char} {rest : List Char} (hc : isDecimal c = true) (hrest : Digits rest) :
    Digits (c :: '_' :: rest)

/-- One character. -/
def symbol (c : Char) : Language Char := {[c]}

/-- A sign, or none. -/
def sign : Language Char := 1 + symbol '-' + symbol '+'

/-- One digit or more. -/
def digits : Language Char := {text | Digits text}

/-- Digits around a point, on one side of it at least. -/
def point : Language Char :=
  (1 + digits) * symbol '.' * digits + digits * symbol '.' * (1 + digits)

/-- A power of ten, or none. -/
def exponent : Language Char := 1 + (symbol 'e' + symbol 'E') * sign * digits

/-- Digits that are not too many for an integer. -/
def fewDigits : Language Char :=
  {text | Digits text ∧ text.countP isDecimal ≤ integerDigitLimit}

/-- White space around a number. -/
def padding : Language Char := {text | ∀ c ∈ text, isNumberPadding c = true}

/-- An integer. -/
def integer : Language Char := padding * (sign * fewDigits) * padding

/-- A number with a point. -/
def decimal : Language Char := padding * (sign * point * exponent) * padding

/-- A number. -/
def numeral : Language Char := integer + decimal

/-! ## What the words are made of -/

variable {text : List Char}

theorem mem_symbol {c : Char} : text ∈ symbol c ↔ text = [c] := Iff.rfl

theorem mem_sign : text ∈ sign ↔ text = [] ∨ text = ['-'] ∨ text = ['+'] := by
  rw [sign, Language.mem_add, Language.mem_add, Language.mem_one, mem_symbol, mem_symbol, or_assoc]

theorem Digits.ne_nil (h : Digits text) : text ≠ [] := by
  cases h <;> simp

theorem mem_point :
    text ∈ point ↔ ∃ whole fraction, text = whole ++ '.' :: fraction ∧
      (whole = [] ∨ Digits whole) ∧ (fraction = [] ∨ Digits fraction) ∧
      (whole ≠ [] ∨ fraction ≠ []) := by
  simp only [point, Language.mem_add, Language.mem_mul, Language.mem_one, mem_symbol]
  constructor
  · rintro (⟨_, ⟨whole, hwhole, _, rfl, rfl⟩, fraction, hfraction, rfl⟩ |
      ⟨_, ⟨whole, hwhole, _, rfl, rfl⟩, fraction, hfraction, rfl⟩)
    · exact ⟨whole, fraction, by simp, hwhole, .inr hfraction, .inr hfraction.ne_nil⟩
    · exact ⟨whole, fraction, by simp, .inr hwhole, hfraction, .inl hwhole.ne_nil⟩
  · rintro ⟨whole, fraction, rfl, hwhole, hfraction, hsome⟩
    rcases hfraction with rfl | hfraction
    · refine .inr ⟨whole ++ ['.'], ⟨whole, hwhole.resolve_left (by simpa using hsome), _, rfl, rfl⟩,
        [], .inl rfl, by simp⟩
    · exact .inl ⟨whole ++ ['.'], ⟨whole, hwhole, _, rfl, rfl⟩, fraction, hfraction, by simp⟩

theorem mem_exponent :
    text ∈ exponent ↔ text = [] ∨ ∃ mark signed rest, text = mark :: (signed ++ rest) ∧
      (mark = 'e' ∨ mark = 'E') ∧ signed ∈ sign ∧ Digits rest := by
  simp only [exponent, Language.mem_add, Language.mem_mul, Language.mem_one, mem_symbol]
  constructor
  · rintro (rfl | ⟨_, ⟨_, hmark, signed, hsigned, rfl⟩, rest, hrest, rfl⟩)
    · exact .inl rfl
    · rcases hmark with rfl | rfl
      · exact .inr ⟨'e', signed, rest, by simp, .inl rfl, hsigned, hrest⟩
      · exact .inr ⟨'E', signed, rest, by simp, .inr rfl, hsigned, hrest⟩
  · rintro (rfl | ⟨mark, signed, rest, rfl, hmark, hsigned, hrest⟩)
    · exact .inl rfl
    · refine .inr ⟨[mark] ++ signed, ⟨[mark], ?_, signed, hsigned, rfl⟩, rest, hrest, by simp⟩
      simpa using hmark

/-- No word of a language has a character of a kind. -/
def Avoids (kind : Char → Bool) (language : Language Char) : Prop :=
  ∀ text ∈ language, ∀ c ∈ text, kind c = false

section

variable {kind : Char → Bool} {l m : Language Char}

theorem Avoids.one : Avoids kind 1 := by
  intro text htext c hc
  rw [Language.mem_one] at htext
  rw [htext] at hc
  cases hc

theorem Avoids.add (hl : Avoids kind l) (hm : Avoids kind m) : Avoids kind (l + m) := by
  rintro text (htext | htext)
  · exact hl text htext
  · exact hm text htext

theorem Avoids.mul (hl : Avoids kind l) (hm : Avoids kind m) : Avoids kind (l * m) := by
  intro text htext c hc
  obtain ⟨front, hfront, back, hback, rfl⟩ := Language.mem_mul.mp htext
  rcases List.mem_append.mp hc with hc | hc
  · exact hl front hfront c hc
  · exact hm back hback c hc

theorem Avoids.symbol {c : Char} (hc : kind c = false) : Avoids kind (symbol c) := by
  rintro _ rfl d hd
  rw [List.mem_singleton.mp hd]
  exact hc

theorem Avoids.sign (hminus : kind '-' = false) (hplus : kind '+' = false) :
    Avoids kind sign :=
  (Avoids.one.add (Avoids.symbol hminus)).add (Avoids.symbol hplus)

theorem Avoids.digits (hdigit : ∀ c, isDecimal c = true → kind c = false)
    (hunderscore : kind '_' = false) : Avoids kind digits := by
  intro text htext
  induction (htext : Digits text) with
  | one hc => simpa using hdigit _ hc
  | next hc _ ih => exact List.forall_mem_cons.mpr ⟨hdigit _ hc, ih⟩
  | underscore hc _ ih =>
    exact List.forall_mem_cons.mpr ⟨hdigit _ hc, List.forall_mem_cons.mpr ⟨hunderscore, ih⟩⟩

end

/-- The white space around a number is none of it. -/
theorem avoids_padding :
    Avoids isNumberPadding (sign * digits) ∧ Avoids isNumberPadding (sign * point * exponent) := by
  have hsign : Avoids isNumberPadding sign := Avoids.sign (by decide) (by decide)
  have hdigits : Avoids isNumberPadding digits :=
    Avoids.digits (fun _ => isNumberPadding_of_isDecimal) (by decide)
  have hpoint : Avoids isNumberPadding (symbol '.') := Avoids.symbol (by decide)
  have hmark : Avoids isNumberPadding (symbol 'e' + symbol 'E') :=
    (Avoids.symbol (by decide)).add (Avoids.symbol (by decide))
  refine ⟨hsign.mul hdigits, (hsign.mul ?_).mul ?_⟩
  · exact (((Avoids.one.add hdigits).mul hpoint).mul hdigits).add
      ((hdigits.mul hpoint).mul (Avoids.one.add hdigits))
  · exact Avoids.one.add ((hmark.mul hsign).mul hdigits)

/-! ## Digits of other scripts -/

/-- A text is in a language if it is there with ASCII digits. -/
def Unmaps (language : Language Char) : Prop :=
  ∀ text : List Char, text.map Reading.plainDigit ∈ language → text ∈ language

section

open Reading

variable {c : Char}

theorem plainDigit_of_not_isDecimal (h : isDecimal c = false) : plainDigit c = c := by
  have hnone : digitValue? c = none := by simpa [isDecimal] using h
  rw [plainDigit, hnone]

theorem isDecimal_of_isDigit (h : c.isDigit = true) : isDecimal c = true := by
  have hascii : c.toNat < 128 := by
    have hrange : 48 ≤ c.toNat ∧ c.toNat ≤ 57 := Char.isDigit_iff_toNat.mp h
    omega
  simp [isDecimal, digitValue?, hascii, h]

theorem isDecimal_plainDigit (c : Char) : isDecimal (plainDigit c) = isDecimal c := by
  cases hc : isDecimal c with
  | true => exact isDecimal_of_isDigit (isDigit_plainDigit hc)
  | false => rw [plainDigit_of_not_isDecimal hc, hc]

/-- What is no digit was no digit. -/
theorem eq_of_plainDigit_eq {d : Char} (hd : isDecimal d = false) (h : plainDigit c = d) :
    c = d := by
  rw [← h, isDecimal_plainDigit] at hd
  rw [← h, plainDigit_of_not_isDecimal hd]

theorem Unmaps.one : Unmaps 1 := by
  intro text htext
  rw [Language.mem_one, List.map_eq_nil_iff] at htext
  exact htext

theorem Unmaps.symbol {c : Char} (hc : isDecimal c = false) : Unmaps (symbol c) := by
  intro text htext
  obtain ⟨d, rest, rfl, hd, hrest⟩ := List.map_eq_cons_iff.mp htext
  rw [List.map_eq_nil_iff] at hrest
  rw [eq_of_plainDigit_eq hc hd, hrest]
  rfl

theorem Unmaps.digits : Unmaps digits := by
  intro text htext
  generalize hplain : text.map plainDigit = plain at htext
  induction (htext : Digits plain) generalizing text with
  | one hc =>
    obtain ⟨c, rest, rfl, rfl, hrest⟩ := List.map_eq_cons_iff.mp hplain
    rw [List.map_eq_nil_iff] at hrest
    rw [hrest]
    exact .one (by rwa [isDecimal_plainDigit] at hc)
  | next hc hrest ih =>
    obtain ⟨c, rest, rfl, rfl, hrest⟩ := List.map_eq_cons_iff.mp hplain
    exact .next (by rwa [isDecimal_plainDigit] at hc) (ih rest hrest)
  | underscore hc hrest ih =>
    obtain ⟨c, rest, rfl, rfl, hrest⟩ := List.map_eq_cons_iff.mp hplain
    obtain ⟨d, rest, rfl, hd, hrest⟩ := List.map_eq_cons_iff.mp hrest
    rw [eq_of_plainDigit_eq (by decide) hd]
    exact .underscore (by rwa [isDecimal_plainDigit] at hc) (ih rest hrest)

variable {l m : Language Char}

theorem Unmaps.add (hl : Unmaps l) (hm : Unmaps m) : Unmaps (l + m) := by
  rintro text (htext | htext)
  · exact .inl (hl text htext)
  · exact .inr (hm text htext)

theorem Unmaps.mul (hl : Unmaps l) (hm : Unmaps m) : Unmaps (l * m) := by
  intro text htext
  obtain ⟨_, hfront, _, hback, happend⟩ := Language.mem_mul.mp htext
  obtain ⟨front, back, rfl, rfl, rfl⟩ := List.map_eq_append_iff.mp happend.symm
  exact Language.mem_mul.mpr ⟨front, hl front hfront, back, hm back hback, rfl⟩

theorem Unmaps.sign : Unmaps sign :=
  (Unmaps.one.add (Unmaps.symbol (by decide))).add (Unmaps.symbol (by decide))

theorem Unmaps.fewDigits : Unmaps fewDigits := by
  rintro text ⟨htext, hcount⟩
  have hsame : isDecimal ∘ plainDigit = isDecimal := funext isDecimal_plainDigit
  rw [List.countP_map, hsame] at hcount
  exact ⟨Unmaps.digits text htext, hcount⟩

theorem unmaps_decimal : Unmaps (Numeral.sign * point * exponent) := by
  have hpoint : Unmaps (Numeral.symbol '.') := Unmaps.symbol (by decide)
  have hmark : Unmaps (Numeral.symbol 'e' + Numeral.symbol 'E') :=
    (Unmaps.symbol (by decide)).add (Unmaps.symbol (by decide))
  refine (Unmaps.sign.mul ?_).mul ?_
  · exact (((Unmaps.one.add Unmaps.digits).mul hpoint).mul Unmaps.digits).add
      ((Unmaps.digits.mul hpoint).mul (Unmaps.one.add Unmaps.digits))
  · exact Unmaps.one.add ((hmark.mul Unmaps.sign).mul Unmaps.digits)

end

end Numeral

/-! ## Underscores -/

namespace Reading

/-- A text behind a character, and what is left of it without its underscores. Each of them stands
between two digits. -/
inductive Spaced : (previous : Char) → (text plain : List Char) → Prop
  | nil (previous : Char) : Spaced previous [] []
  | next {previous c : Char} {text plain : List Char} (hc : c ≠ '_') (h : Spaced c text plain) :
    Spaced previous (c :: text) (c :: plain)
  | underscore {previous c : Char} {text plain : List Char} (hprevious : previous.isDigit = true)
    (hc : c.isDigit = true) (h : Spaced c text plain) :
    Spaced previous ('_' :: c :: text) (c :: plain)

theorem ne_underscore_of_isDigit {c : Char} (h : c.isDigit = true) : c ≠ '_' := by
  rintro rfl
  exact absurd h (by decide)

variable {previous : Char} {text plain : List Char}

theorem Spaced.dropUnderscores_eq (h : Spaced previous text plain) (hprevious : previous ≠ '_') :
    dropUnderscores previous text = some plain := by
  induction h with
  | nil => simp [dropUnderscores, hprevious]
  | next hc _ ih => simp [dropUnderscores, hprevious, hc, ih hc]
  | underscore hdigit hc _ ih =>
    have hne := ne_underscore_of_isDigit hc
    simp [dropUnderscores, hdigit, hc, hne, ih hne]

theorem spaced_of_dropUnderscores (h : dropUnderscores previous text = some plain) :
    if previous = '_' then
      ∃ c rest more, text = c :: rest ∧ plain = c :: more ∧ c.isDigit = true ∧ Spaced c rest more
    else Spaced previous text plain := by
  induction text generalizing previous plain with
  | nil =>
    rw [dropUnderscores] at h
    split at h
    · cases h
    · rename_i hprevious
      cases h
      rw [if_neg (by simpa using hprevious)]
      exact .nil previous
  | cons c rest ih =>
    rw [dropUnderscores] at h
    by_cases hc : c = '_'
    · subst hc
      rw [if_pos (by decide)] at h
      split at h
      · rename_i hdigit
        -- here the induction hypothesis speaks of what follows the underscore
        have hspaced := ih h
        rw [if_pos rfl] at hspaced
        obtain ⟨d, later, more, rfl, rfl, hd, hlater⟩ := hspaced
        rw [if_neg (ne_underscore_of_isDigit hdigit)]
        exact .underscore hdigit hd hlater
      · cases h
    · rw [if_neg (by simpa using hc)] at h
      split at h
      · cases h
      · rename_i hbetween
        obtain ⟨more, hmore, rfl⟩ := Option.map_eq_some_iff.mp h
        have hspaced := ih hmore
        rw [if_neg hc] at hspaced
        split
        · rename_i hprevious
          refine ⟨c, rest, more, rfl, rfl, ?_, hspaced⟩
          simpa [hprevious] using hbetween
        · exact .next hc hspaced

theorem dropUnderscores_eq_some_iff (hprevious : previous ≠ '_') :
    dropUnderscores previous text = some plain ↔ Spaced previous text plain := by
  constructor
  · intro h
    have hspaced := spaced_of_dropUnderscores h
    rwa [if_neg hprevious] at hspaced
  · exact fun h => h.dropUnderscores_eq hprevious

namespace Spaced

variable {previous : Char} {text plain : List Char}

theorem append (h : Spaced previous text plain) {later more : List Char}
    (hlater : ∀ last, Spaced last later more) :
    Spaced previous (text ++ later) (plain ++ more) := by
  induction h with
  | nil previous => exact hlater previous
  | next hc _ ih => exact .next hc ih
  -- an underscore has its digit behind it, so that no cut falls between the two
  | underscore hprevious hc _ ih => exact .underscore hprevious hc ih

theorem split {front back : List Char} (h : Spaced previous text (front ++ back)) :
    ∃ text₁ text₂, text = text₁ ++ text₂ ∧ Spaced previous text₁ front ∧
      Spaced (front.getLastD previous) text₂ back := by
  induction front generalizing previous text with
  | nil => exact ⟨[], text, rfl, .nil previous, h⟩
  | cons c front ih =>
    have hlast : (c :: front).getLastD previous = front.getLastD c := by
      cases front <;> rfl
    rw [hlast]
    cases h with
    | next hc h =>
      obtain ⟨text₁, text₂, rfl, hfront, hback⟩ := ih h
      exact ⟨c :: text₁, text₂, rfl, .next hc hfront, hback⟩
    | underscore hprevious hc h =>
      obtain ⟨text₁, text₂, rfl, hfront, hback⟩ := ih h
      exact ⟨'_' :: c :: text₁, text₂, rfl, .underscore hprevious hc hfront, hback⟩

theorem eq_nil (h : Spaced previous text []) : text = [] := by
  cases h
  rfl

theorem mem (h : Spaced previous text plain) {c : Char} (hc : c ∈ text) (hne : c ≠ '_') :
    c ∈ plain := by
  induction h with
  | nil => exact hc
  | next _ _ ih =>
    rcases List.mem_cons.mp hc with rfl | hc
    · exact List.mem_cons_self
    · exact List.mem_cons_of_mem _ (ih hc)
  | underscore _ _ _ ih =>
    rcases List.mem_cons.mp ((List.mem_cons.mp hc).resolve_left hne) with rfl | hc
    · exact List.mem_cons_self
    · exact List.mem_cons_of_mem _ (ih hc)

/-- There is no underscore before a character that is no digit. -/
theorem exists_cons {c : Char} (hc : c.isDigit = false) (h : Spaced previous text (c :: plain)) :
    ∃ rest, text = c :: rest ∧ Spaced c rest plain := by
  cases h with
  | next _ h => exact ⟨_, rfl, h⟩
  | underscore _ hdigit _ =>
    rw [hc] at hdigit
    cases hdigit

end Spaced

end Reading

namespace Numeral

open Text Reading

theorem Digits.exists_spaced {text : List Char} (h : Digits text) :
    ∃ first rest more, text.map plainDigit = first :: rest ∧ Spaced first rest more ∧
      (∀ c ∈ first :: more, c.isDigit = true) ∧
      (first :: more).length = text.countP isDecimal := by
  induction h with
  | @one c hc =>
    refine ⟨plainDigit c, [], [], rfl, .nil _, ?_, by simp [hc]⟩
    simpa using isDigit_plainDigit hc
  | @next c _ hc _ ih =>
    obtain ⟨first, rest, more, hmap, hspaced, hdigits, hcount⟩ := ih
    have hfirst := hdigits first List.mem_cons_self
    refine ⟨plainDigit c, first :: rest, first :: more, by rw [List.map_cons, hmap],
      .next (ne_underscore_of_isDigit hfirst) hspaced,
      List.forall_mem_cons.mpr ⟨isDigit_plainDigit hc, hdigits⟩, ?_⟩
    rw [List.length_cons, hcount, List.countP_cons_of_pos hc]
  | @underscore c _ hc _ ih =>
    obtain ⟨first, rest, more, hmap, hspaced, hdigits, hcount⟩ := ih
    have hfirst := hdigits first List.mem_cons_self
    have hunderscore : plainDigit '_' = '_' := plainDigit_of_not_isDecimal (by decide)
    refine ⟨plainDigit c, '_' :: first :: rest, first :: more, ?_,
      .underscore (isDigit_plainDigit hc) hfirst hspaced,
      List.forall_mem_cons.mpr ⟨isDigit_plainDigit hc, hdigits⟩, ?_⟩
    · rw [List.map_cons, List.map_cons, hmap, hunderscore]
    · rw [List.length_cons, hcount, List.countP_cons_of_pos hc,
        List.countP_cons_of_neg (by decide)]

variable {rest signed : List Char}

theorem digits_of_spaced {first : Char} {more : List Char} (hspaced : Spaced first rest more)
    (hdigits : ∀ c ∈ first :: more, c.isDigit = true) :
    Digits (first :: rest) ∧ (first :: rest).countP isDecimal = (first :: more).length := by
  induction hspaced with
  | nil first =>
    have hfirst := isDecimal_of_isDigit (hdigits first List.mem_cons_self)
    exact ⟨.one hfirst, by simp [hfirst]⟩
  | @next first c rest more _ _ ih =>
    obtain ⟨hfirst, hmore⟩ := List.forall_mem_cons.mp hdigits
    have hfirst := isDecimal_of_isDigit hfirst
    obtain ⟨hrest, hcount⟩ := ih hmore
    refine ⟨.next hfirst hrest, ?_⟩
    rw [List.countP_cons_of_pos hfirst, hcount]
    rfl
  | @underscore first c rest more _ _ _ ih =>
    obtain ⟨hfirst, hmore⟩ := List.forall_mem_cons.mp hdigits
    have hfirst := isDecimal_of_isDigit hfirst
    obtain ⟨hrest, hcount⟩ := ih hmore
    refine ⟨.underscore hfirst hrest, ?_⟩
    rw [List.countP_cons_of_pos hfirst, List.countP_cons_of_neg (by decide), hcount]
    rfl

/-! ## Signs and white space -/

theorem splitSign_of_mem_sign (hsigned : signed ∈ sign)
    (hrest : ∀ c, rest.head? = some c → c ≠ '-' ∧ c ≠ '+') :
    (splitSign (signed ++ rest)).2 = rest := by
  rcases mem_sign.mp hsigned with rfl | rfl | rfl
  · rw [List.nil_append]
    unfold splitSign
    split
    · exact absurd rfl (hrest '-' rfl).1
    · exact absurd rfl (hrest '+' rfl).2
    · rfl
  · rfl
  · rfl

theorem not_sign_of_isDigit {c : Char} (h : c.isDigit = true) : c ≠ '-' ∧ c ≠ '+' := by
  constructor
  · rintro rfl
    exact absurd h (by decide)
  · rintro rfl
    exact absurd h (by decide)

theorem splitSign_of_digits (hsigned : signed ∈ sign) (hdigits : ∀ c ∈ rest, c.isDigit = true) :
    (splitSign (signed ++ rest)).2 = rest := by
  refine splitSign_of_mem_sign hsigned fun c hc => ?_
  exact not_sign_of_isDigit (hdigits c (List.mem_of_mem_head? hc))

theorem exists_sign (plain : List Char) :
    ∃ signed ∈ sign, plain = signed ++ (splitSign plain).2 := by
  unfold splitSign
  split
  · exact ⟨['-'], mem_sign.mpr (.inr (.inl rfl)), rfl⟩
  · exact ⟨['+'], mem_sign.mpr (.inr (.inr rfl)), rfl⟩
  · exact ⟨[], mem_sign.mpr (.inl rfl), rfl⟩

theorem spaced_sign (hsigned : signed ∈ sign) (previous : Char) :
    Spaced previous (signed.map plainDigit) signed := by
  have hplain : ∀ c ∈ ['-', '+'], plainDigit c = c ∧ c ≠ '_' := by
    intro c hc
    rcases List.mem_pair.mp hc with rfl | rfl
    · exact ⟨plainDigit_of_not_isDecimal (by decide), by decide⟩
    · exact ⟨plainDigit_of_not_isDecimal (by decide), by decide⟩
  rcases mem_sign.mp hsigned with rfl | rfl | rfl
  · exact .nil previous
  · rw [List.map_singleton, (hplain '-' (by simp)).1]
    exact .next (by decide) (.nil _)
  · rw [List.map_singleton, (hplain '+' (by simp)).1]
    exact .next (by decide) (.nil _)

theorem eq_sign_of_spaced {previous : Char} {text : List Char} (hsigned : signed ∈ sign)
    (hprevious : previous.isDigit = false) (h : Spaced previous text signed) :
    text = signed ∧ (signed.getLastD previous).isDigit = false := by
  rcases mem_sign.mp hsigned with rfl | rfl | rfl
  · exact ⟨h.eq_nil, hprevious⟩
  · obtain ⟨rest, rfl, hrest⟩ := h.exists_cons (by decide)
    exact ⟨by rw [hrest.eq_nil], rfl⟩
  · obtain ⟨rest, rfl, hrest⟩ := h.exists_cons (by decide)
    exact ⟨by rw [hrest.eq_nil], rfl⟩

theorem trimWhile_padded {test : Char → Bool} {before inner after : List Char}
    (hbefore : ∀ c ∈ before, test c = true) (hinner : ∀ c ∈ inner, test c = false)
    (hafter : ∀ c ∈ after, test c = true) :
    trimWhile test (before ++ inner ++ after) = inner := by
  have hkeep : inner.reverse.dropWhile test = inner.reverse := by
    cases hreverse : inner.reverse with
    | nil => rfl
    | cons c rest =>
      have hc : c ∈ inner := List.mem_reverse.mp (hreverse ▸ List.mem_cons_self)
      exact List.dropWhile_cons_of_neg (by simp [hinner c hc])
  rw [trimWhile, List.append_assoc, List.dropWhile_append_of_pos hbefore]
  cases inner with
  | nil =>
    -- with nothing between them, the front takes both paddings
    have hnone : after.dropWhile test = [] := by simpa using hafter
    rw [List.nil_append, hnone]
    rfl
  | cons c rest =>
    have hc : (c :: rest ++ after).dropWhile test = c :: rest ++ after :=
      List.dropWhile_cons_of_neg (by simp [hinner c List.mem_cons_self])
    rw [hc, List.reverse_append, List.dropWhile_append_of_pos (by simpa using hafter), hkeep,
      List.reverse_reverse]

theorem exists_padding (test : Char → Bool) (text : List Char) :
    ∃ before after, text = before ++ trimWhile test text ++ after ∧
      (∀ c ∈ before, test c = true) ∧ ∀ c ∈ after, test c = true := by
  obtain ⟨after, htext, hafter⟩ := exists_eq_append_trimWhile test text
  rw [← List.append_assoc] at htext
  exact ⟨text.takeWhile test, after, htext, fun _ => List.mem_takeWhile_imp, hafter⟩

/-- White space around a word that has none in it is trimmed off. -/
theorem mem_padded_iff {language : Language Char} (h : Avoids isNumberPadding language)
    (text : List Char) :
    text ∈ padding * language * padding ↔ trimWhile isNumberPadding text ∈ language := by
  constructor
  · intro htext
    obtain ⟨_, hfront, after, hafter, rfl⟩ := Language.mem_mul.mp htext
    obtain ⟨before, hbefore, inner, hinner, rfl⟩ := Language.mem_mul.mp hfront
    rwa [trimWhile_padded hbefore (h inner hinner) hafter]
  · intro hinner
    obtain ⟨before, after, htext, hbefore, hafter⟩ := exists_padding isNumberPadding text
    rw [htext]
    exact Language.append_mem_mul (Language.append_mem_mul hbefore hinner) hafter

end Numeral

end ScriptStudio
