import Mathlib.Tactic.Linarith
import Mathlib.Tactic.Ring
import ScriptStudio.Proofs.NumberOrder

/-!
# Rounding to 64-bit numbers

Rounding a fraction of units to a rank keeps the order of fractions, and it finds a rank from every
fraction that lies near enough to it.

* `Nearest`: the nearest integer to a fraction, the even one of two. `Nearest.mono` is the one
  argument about it.
* `Binary64.rankOfRatio_mono`: a greater fraction has no smaller rank.
* `Binary64.rankOfRatio_of_near`: a fraction that differs from a rank's magnitude by less than one
  part in 2 ^ 54 has that rank.
-/

namespace ScriptStudio

namespace Binary64

/-! ## Quotients -/

/-- The integer is nearest to a fraction, and even if another one is as near. -/
structure Nearest (numerator denominator nearest : Nat) : Prop where
  le : 2 * (nearest * denominator) ≤ 2 * numerator + denominator
  ge : 2 * numerator ≤ 2 * (nearest * denominator) + denominator
  even_of_eq_le : 2 * (nearest * denominator) = 2 * numerator + denominator → nearest % 2 = 0
  even_of_eq_ge : 2 * numerator = 2 * (nearest * denominator) + denominator → nearest % 2 = 0

section

variable {a b c d m n k : Nat}

theorem nearest_roundQuotient (a : Nat) (hb : 0 < b) : Nearest a b (roundQuotient a b) := by
  have hdivided := Nat.div_add_mod a b
  have hless := Nat.mod_lt a hb
  have hsucc : (a / b + 1) * b = a / b * b + b := Nat.succ_mul _ _
  rw [Nat.mul_comm] at hdivided
  unfold roundQuotient
  simp only [Bool.or_eq_true, Bool.and_eq_true, decide_eq_true_eq, beq_iff_eq]
  split
  · constructor <;> rw [hsucc] <;> omega
  · constructor <;> omega

/-- A greater fraction has no smaller nearest integer. If it had, both fractions would lie halfway
between the two integers, and both of these would be even. -/
theorem Nearest.mono (hm : Nearest a b m) (hn : Nearest c d n) (hb : 0 < b) (hd : 0 < d)
    (h : a * d ≤ c * b) : m ≤ n := by
  by_contra hlt
  have hbd : 0 < b * d := Nat.mul_pos hb hd
  have hleft : 2 * (m * (b * d)) ≤ 2 * (a * d) + b * d := by
    have := Nat.mul_le_mul_right d hm.le
    linarith
  have hright : 2 * (c * b) ≤ 2 * (n * (b * d)) + b * d := by
    have := Nat.mul_le_mul_right b hn.ge
    linarith
  have hsucc : m = n + 1 := by
    have hle : m * (b * d) ≤ (n + 1) * (b * d) := by linarith
    have := Nat.le_of_mul_le_mul_right hle hbd
    omega
  subst hsucc
  have hmid : 2 * (a * d) + b * d = 2 * ((n + 1) * (b * d)) := by linarith
  have hup : n.succ % 2 = 0 := by
    refine hm.even_of_eq_le (Nat.eq_of_mul_eq_mul_right hd ?_)
    linarith
  have hdown : n % 2 = 0 := by
    refine hn.even_of_eq_ge (Nat.eq_of_mul_eq_mul_right hb ?_)
    linarith
  omega

theorem nearest_mul (k : Nat) (hd : 0 < d) : Nearest (k * d) d k := by
  constructor <;> omega

theorem roundQuotient_mono (hb : 0 < b) (hd : 0 < d) (h : a * d ≤ c * b) :
    roundQuotient a b ≤ roundQuotient c d :=
  (nearest_roundQuotient a hb).mono (nearest_roundQuotient c hd) hb hd h

theorem roundQuotient_le (hb : 0 < b) (h : a ≤ k * b) : roundQuotient a b ≤ k :=
  (nearest_roundQuotient a hb).mono (nearest_mul k hb) hb hb (Nat.mul_le_mul_right b h)

theorem le_roundQuotient (hb : 0 < b) (h : k * b ≤ a) : k ≤ roundQuotient a b :=
  (nearest_mul k hb).mono (nearest_roundQuotient a hb) hb hb (Nat.mul_le_mul_right b h)

/-- Less than a half away there is one nearest integer. -/
theorem roundQuotient_of_near (hb : 0 < b) (hlow : 2 * (k * b) < 2 * a + b)
    (hhigh : 2 * a < 2 * (k * b) + b) : roundQuotient a b = k := by
  have hk : Nearest a b k := by constructor <;> omega
  have ha := nearest_roundQuotient a hb
  exact Nat.le_antisymm (ha.mono hk hb hb le_rfl) (hk.mono ha hb hb le_rfl)

end

/-! ## Ranks -/

/-- A fraction of units lies where ranks are so often doubled: it has a mantissa of at most 53 bits
there, and of no fewer if they are doubled at all. -/
structure Doubled (numerator denominator doublings : Nat) : Prop where
  lt : numerator < 2 ^ 53 * (denominator * 2 ^ doublings)
  le : doublings = 0 ∨ 2 ^ 52 * (denominator * 2 ^ doublings) ≤ numerator

section

variable {a b c d k l rank : Nat}

theorem doubled_log2 (a : Nat) (hb : 0 < b) : Doubled a b ((a / b).log2 - 52) := by
  constructor
  · have hbits : a / b < 2 ^ ((a / b).log2 - 52 + 53) :=
      Nat.lt_of_lt_of_le Nat.lt_log2_self (Nat.pow_le_pow_right (by decide) (by omega))
    rw [Nat.div_lt_iff_lt_mul hb, Nat.pow_add] at hbits
    linarith
  · rcases Nat.eq_zero_or_pos ((a / b).log2 - 52) with hzero | hpositive
    · exact .inl hzero
    · right
      have hne : a / b ≠ 0 := by
        intro heq
        rw [heq, Nat.log2_zero] at hpositive
        omega
      have hbits : 2 ^ ((a / b).log2 - 52 + 52) ≤ a / b := by
        rw [show (a / b).log2 - 52 + 52 = (a / b).log2 by omega]
        exact Nat.log2_self_le hne
      rw [Nat.le_div_iff_mul_le hb, Nat.pow_add] at hbits
      linarith

theorem Doubled.mono (hk : Doubled a b k) (hl : Doubled c d l) (hb : 0 < b) (hd : 0 < d)
    (h : a * d ≤ c * b) : k ≤ l := by
  rcases hk.le with rfl | hle
  · exact Nat.zero_le l
  · have hbd : 0 < b * d := Nat.mul_pos hb hd
    have hleft := Nat.mul_le_mul_right d hle
    have hright := Nat.mul_lt_mul_of_pos_right hl.lt hb
    have hpow : 2 ^ k * (b * d) < 2 ^ (l + 1) * (b * d) := by
      rw [Nat.pow_succ]
      linarith
    have hlt := (Nat.pow_lt_pow_iff_right (by decide)).mp (Nat.lt_of_mul_lt_mul_right hpow)
    omega

theorem rankOfRatio_eq (hb : 0 < b) (hk : Doubled a b k) :
    rankOfRatio a b = k * 2 ^ 52 + roundQuotient a (b * 2 ^ k) := by
  have hlog := doubled_log2 a hb
  have heq : (a / b).log2 - 52 = k :=
    Nat.le_antisymm (hlog.mono hk hb hb le_rfl) (hk.mono hlog hb hb le_rfl)
  rw [← heq]
  rfl

/-- A greater fraction has no smaller rank. -/
theorem rankOfRatio_mono (hb : 0 < b) (hd : 0 < d) (h : a * d ≤ c * b) :
    rankOfRatio a b ≤ rankOfRatio c d := by
  have hk := doubled_log2 a hb
  have hl := doubled_log2 c hd
  have hle := hk.mono hl hb hd h
  rw [rankOfRatio_eq hb hk, rankOfRatio_eq hd hl]
  generalize (a / b).log2 - 52 = k at hk hle
  generalize (c / d).log2 - 52 = l at hl hle
  have hbk : 0 < b * 2 ^ k := Nat.mul_pos hb (Nat.two_pow_pos k)
  have hdl : 0 < d * 2 ^ l := Nat.mul_pos hd (Nat.two_pow_pos l)
  rcases Nat.eq_or_lt_of_le hle with rfl | hlt
  · refine Nat.add_le_add_left (roundQuotient_mono hbk hdl ?_) _
    have := Nat.mul_le_mul_right (2 ^ k) h
    linarith
  -- all ranks with fewer doublings come before those with more
  · have hleft := roundQuotient_le hbk hk.lt.le
    have hright := le_roundQuotient hdl (hl.le.resolve_left (by omega))
    omega

/-- A rank as its mantissa and the number of its doublings. -/
theorem exists_mantissa (rank : Nat) : ∃ mantissa doublings,
    rank = doublings * 2 ^ 52 + mantissa ∧ unitsOfRank rank = mantissa * 2 ^ doublings ∧
      mantissa < 2 ^ 53 ∧ (doublings = 0 ∨ 2 ^ 52 ≤ mantissa) := by
  have hdivided := Nat.div_add_mod rank (2 ^ 52)
  have hless := Nat.mod_lt rank (show 0 < 2 ^ 52 by decide)
  refine ⟨rank - (rank / 2 ^ 52 - 1) * 2 ^ 52, rank / 2 ^ 52 - 1, ?_, rfl, ?_, ?_⟩
  all_goals omega

/-- A fraction that differs from the magnitude of a rank by less than one part in 2 ^ 54 has that
rank. Below a power of two, where ranks lie closest, this is half the distance to the next one. -/
theorem rankOfRatio_of_near (hb : 0 < b)
    (hlow : (2 ^ 54 - 1) * (unitsOfRank rank * b) < 2 ^ 54 * a)
    (hhigh : 2 ^ 54 * a < (2 ^ 54 + 1) * (unitsOfRank rank * b)) : rankOfRatio a b = rank := by
  obtain ⟨m, k, hrank, hunits, hm, hnormal⟩ := exists_mantissa rank
  rw [hunits] at hlow hhigh
  have hbk : 0 < b * 2 ^ k := Nat.mul_pos hb (Nat.two_pow_pos k)
  have hmb : m * 2 ^ k * b = m * (b * 2 ^ k) := by ring
  rw [hmb] at hlow hhigh
  have hmk : m * (b * 2 ^ k) ≤ (2 ^ 53 - 1) * (b * 2 ^ k) := Nat.mul_le_mul_right _ (by omega)
  by_cases hsame : k = 0 ∨ 2 ^ 52 * (b * 2 ^ k) ≤ a
  · have hdoubled : Doubled a b k := ⟨by omega, hsame⟩
    rw [rankOfRatio_eq hb hdoubled, hrank]
    congr 1
    exact roundQuotient_of_near hbk (by omega) (by omega)
  -- below the power of two the fraction rounds up to it
  · obtain ⟨hk, hless⟩ := not_or.mp hsame
    obtain ⟨j, rfl⟩ : ∃ j, k = j + 1 := ⟨k - 1, by omega⟩
    have hpower : m = 2 ^ 52 := by
      refine Nat.le_antisymm (Nat.le_of_not_lt fun hgreater => ?_) (hnormal.resolve_left hk)
      have hmore : (2 ^ 52 + 1) * (b * 2 ^ (j + 1)) ≤ m * (b * 2 ^ (j + 1)) :=
        Nat.mul_le_mul_right _ hgreater
      omega
    have hhalf : b * 2 ^ (j + 1) = 2 * (b * 2 ^ j) := by ring
    have hbj : 0 < b * 2 ^ j := Nat.mul_pos hb (Nat.two_pow_pos j)
    subst hpower
    rw [hhalf] at hlow hhigh hless
    have hdoubled : Doubled a b j := ⟨by omega, .inr (by omega)⟩
    have hround : roundQuotient a (b * 2 ^ j) = 2 ^ 53 :=
      roundQuotient_of_near hbj (by omega) (by omega)
    rw [rankOfRatio_eq hb hdoubled, hround, hrank]
    omega

end

end Binary64

end ScriptStudio
