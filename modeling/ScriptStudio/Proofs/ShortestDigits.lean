import Mathlib.Algebra.Order.Field.Power
import Mathlib.Data.Nat.Cast.Order.Field
import Mathlib.Tactic.FieldSimp
import Mathlib.Tactic.IntervalCases
import ScriptStudio.Proofs.Rounding

/-!
# The shortest digits

The shortest decimal fraction of a finite 64-bit number is rounded to that number again. The search
for it takes the two neighbours of the number on ever finer decimal grids, and the seventeenth grid
is fine enough for every number.

* `Decimal.value`, `Decimal.rank_mono`: decimal fractions as rational numbers.
* `Binary64.leadingExponent_spec`: the exponent of the leading digit.
* `Binary64.gridNeighbours_spec`, `Binary64.exists_neighbour`: the neighbours on a grid, one of
  which is rounded to the number if any fraction of the grid is.
* `Binary64.rank_shortestOfRank`: the shortest digits are rounded to the number.
* `Binary64.digits_shortestOfRank`: if one digit suffices, it is one digit.
-/

namespace ScriptStudio

/-! ## Decimal fractions -/

namespace Decimal

/-- The fraction as a rational number. -/
def value (x : Decimal) : ℚ := x.digits * 10 ^ x.exponent

theorem ratio_den_pos (digits : Nat) (exponent : Int) (scale : Nat) :
    0 < (ratio digits exponent scale).2 := by
  unfold ratio
  split
  · exact Nat.one_pos
  · exact Nat.pow_pos (by decide)

theorem ratio_div (digits : Nat) (exponent : Int) (scale : Nat) :
    ((ratio digits exponent scale).1 : ℚ) / (ratio digits exponent scale).2 =
      digits * 10 ^ exponent * scale := by
  unfold ratio
  split
  case isTrue hexponent =>
    obtain ⟨n, rfl⟩ := Int.eq_ofNat_of_zero_le hexponent
    simp
  case isFalse hexponent =>
    obtain ⟨n, rfl⟩ : ∃ n : Nat, exponent = -n := ⟨(-exponent).toNat, by omega⟩
    simp
    field_simp

end Decimal

namespace Binary64

/-- The magnitude of a rank. -/
def magnitude (rank : Nat) : ℚ := unitsOfRank rank / unitsPerOne

theorem unitsPerOne_cast_pos : (0 : ℚ) < unitsPerOne := by exact_mod_cast unitsPerOne_pos

theorem unitsOfRank_pos {rank : Nat} (h : 0 < rank) : 0 < unitsOfRank rank :=
  Nat.pos_of_ne_zero (mt (unitsOfRank_eq_zero_iff rank).mp h.ne')

theorem rankOfRatio_le_of_div_le {a b c d : Nat} (hb : 0 < b) (hd : 0 < d)
    (h : (a : ℚ) / b ≤ c / d) : rankOfRatio a b ≤ rankOfRatio c d := by
  rw [div_le_div_iff₀ (by exact_mod_cast hb) (by exact_mod_cast hd)] at h
  exact rankOfRatio_mono hb hd (by exact_mod_cast h)

theorem rankOfRatio_of_abs_lt {a b rank : Nat} (hb : 0 < b)
    (h : 2 ^ 54 * |(a : ℚ) / b - unitsOfRank rank| < unitsOfRank rank) :
    rankOfRatio a b = rank := by
  have hcast : (0 : ℚ) < b := by exact_mod_cast hb
  have ha : (a : ℚ) = a / b * b := (div_mul_cancel₀ _ hcast.ne').symm
  obtain ⟨hlow, hhigh⟩ := abs_lt.mp ((lt_div_iff₀' (by norm_num)).mpr h)
  refine rankOfRatio_of_near hb ?_ ?_
  · have hless : ((2 ^ 54 - 1 : ℕ) : ℚ) * (unitsOfRank rank * b) < (2 ^ 54 : ℕ) * a := by
      rw [ha]
      norm_num at hlow ⊢
      nlinarith
    exact_mod_cast hless
  · have hless : ((2 ^ 54 : ℕ) : ℚ) * a < (2 ^ 54 + 1 : ℕ) * (unitsOfRank rank * b) := by
      rw [ha]
      norm_num at hhigh ⊢
      nlinarith
    exact_mod_cast hless

theorem rankOfRatio_unitsOfRank (rank : Nat) : rankOfRatio (unitsOfRank rank) 1 = rank := by
  rcases Nat.eq_zero_or_pos rank with rfl | hpositive
  · decide
  · have hunits : 0 < unitsOfRank rank :=
      unitsOfRank_pos hpositive
    exact rankOfRatio_of_near Nat.one_pos (by omega) (by omega)

end Binary64

namespace Decimal

open Binary64

variable {x y : Decimal} {rank : Nat}

theorem rank_eq (x : Decimal) : x.rank = rankOfRatio (ratio x.digits x.exponent unitsPerOne).1
    (ratio x.digits x.exponent unitsPerOne).2 := rfl

/-- A greater fraction has no smaller rank. -/
theorem rank_mono (h : x.value ≤ y.value) : x.rank ≤ y.rank := by
  rw [rank_eq, rank_eq]
  refine rankOfRatio_le_of_div_le (ratio_den_pos _ _ _) (ratio_den_pos _ _ _) ?_
  rw [ratio_div, ratio_div]
  exact mul_le_mul_of_nonneg_right h unitsPerOne_cast_pos.le

theorem rank_congr (h : x.value = y.value) : x.rank = y.rank :=
  Nat.le_antisymm (rank_mono h.le) (rank_mono h.ge)

theorem rank_le (h : x.value ≤ magnitude rank) : x.rank ≤ rank := by
  rw [rank_eq, ← rankOfRatio_unitsOfRank rank]
  refine rankOfRatio_le_of_div_le (ratio_den_pos _ _ _) Nat.one_pos ?_
  rw [ratio_div, Nat.cast_one, div_one]
  exact (le_div_iff₀ unitsPerOne_cast_pos).mp h

theorem le_rank (h : magnitude rank ≤ x.value) : rank ≤ x.rank := by
  rw [rank_eq, ← rankOfRatio_unitsOfRank rank]
  refine rankOfRatio_le_of_div_le Nat.one_pos (ratio_den_pos _ _ _) ?_
  rw [ratio_div, Nat.cast_one, div_one]
  exact (div_le_iff₀ unitsPerOne_cast_pos).mp h

theorem rank_of_near (h : 2 ^ 54 * |x.value - magnitude rank| < magnitude rank) :
    x.rank = rank := by
  have hunits : (unitsOfRank rank : ℚ) = magnitude rank * unitsPerOne :=
    (div_mul_cancel₀ _ unitsPerOne_cast_pos.ne').symm
  rw [rank_eq]
  refine rankOfRatio_of_abs_lt (ratio_den_pos _ _ _) ?_
  rw [ratio_div, hunits, ← value, ← sub_mul, abs_mul, abs_of_pos unitsPerOne_cast_pos, ← mul_assoc]
  exact mul_lt_mul_of_pos_right h unitsPerOne_cast_pos

theorem value_stripZeros (fuel : Nat) (x : Decimal) : (stripZeros fuel x).value = x.value := by
  induction fuel generalizing x with
  | zero => rfl
  | succ fuel ih =>
    unfold stripZeros
    split
    case isTrue hzero =>
      simp only [Bool.and_eq_true, decide_eq_true_eq, beq_iff_eq] at hzero
      have hdigits : (x.digits : ℚ) = (x.digits / 10 : ℕ) * 10 := by
        have : x.digits = x.digits / 10 * 10 := by omega
        exact_mod_cast this
      rw [ih, value, value, hdigits, zpow_add_one₀ (by norm_num)]
      ring
    case isFalse => rfl

end Decimal

/-! ## The leading digit -/

namespace Binary64

open Decimal

/-- A first guess at the exponent of the leading digit, from the number of bits. -/
def leadingGuess (bits : Nat) : Int := Int.fdiv (((bits : Int) - 1074) * 30103) 100000

/-- The guess is right or one too small for all numbers of so many bits. -/
def guessFits (bits : Nat) : Bool :=
  let lower := ratio 1 (leadingGuess bits) unitsPerOne
  let upper := ratio 1 (leadingGuess bits + 2) unitsPerOne
  lower.1 ≤ Nat.pow 2 bits * lower.2 && Nat.pow 2 (bits + 1) * upper.2 ≤ upper.1

theorem all_guessFits : (List.range 2098).all guessFits = true := by decide +kernel

theorem leadingGuess_spec {bits : Nat} (hbits : bits < 2098) :
    10 ^ leadingGuess bits * (unitsPerOne : ℚ) ≤ 2 ^ bits ∧
      (2 : ℚ) ^ (bits + 1) ≤ 10 ^ (leadingGuess bits + 2) * unitsPerOne := by
  have hfits := List.all_eq_true.mp all_guessFits bits (List.mem_range.mpr hbits)
  simp only [guessFits, Bool.and_eq_true, decide_eq_true_eq, Nat.pow_eq] at hfits
  obtain ⟨hlower, hupper⟩ := hfits
  have hlowerDiv := ratio_div 1 (leadingGuess bits) unitsPerOne
  have hupperDiv := ratio_div 1 (leadingGuess bits + 2) unitsPerOne
  rw [Nat.cast_one, one_mul] at hlowerDiv hupperDiv
  rw [← hlowerDiv, ← hupperDiv]
  have hlowerPos : (0 : ℚ) < (ratio 1 (leadingGuess bits) unitsPerOne).2 := by
    exact_mod_cast ratio_den_pos _ _ _
  have hupperPos : (0 : ℚ) < (ratio 1 (leadingGuess bits + 2) unitsPerOne).2 := by
    exact_mod_cast ratio_den_pos _ _ _
  rw [div_le_iff₀ hlowerPos, le_div_iff₀ hupperPos]
  exact ⟨by exact_mod_cast hlower, by exact_mod_cast hupper⟩

theorem leadingExponent_eq (units : Nat) : leadingExponent units =
    if unitsPerOne * (ratio units (-(leadingGuess units.log2 + 1)) 1).2 ≤
      (ratio units (-(leadingGuess units.log2 + 1)) 1).1 then leadingGuess units.log2 + 1
    else leadingGuess units.log2 := rfl

theorem one_le_ratio_iff (units : Nat) (exponent : Int) :
    unitsPerOne * (ratio units (-exponent) 1).2 ≤ (ratio units (-exponent) 1).1 ↔
      10 ^ exponent ≤ (units : ℚ) / unitsPerOne := by
  have hden : (0 : ℚ) < (ratio units (-exponent) 1).2 := by exact_mod_cast ratio_den_pos _ _ _
  have hdiv := ratio_div units (-exponent) 1
  rw [Nat.cast_one, mul_one, zpow_neg, ← div_eq_mul_inv] at hdiv
  have hten : (0 : ℚ) < 10 ^ exponent := by positivity
  rw [le_div_iff₀ unitsPerOne_cast_pos, ← le_div_iff₀' hten, ← hdiv, le_div_iff₀ hden]
  exact_mod_cast Iff.rfl

/-- The leading exponent is that of the greatest power of ten which is not above the magnitude. -/
theorem leadingExponent_spec {units : Nat} (hpositive : 0 < units) (hbits : units.log2 < 2098) :
    10 ^ leadingExponent units ≤ (units : ℚ) / unitsPerOne ∧
      (units : ℚ) / unitsPerOne < 10 ^ (leadingExponent units + 1) := by
  obtain ⟨hlower, hupper⟩ := leadingGuess_spec hbits
  have hleast : (2 : ℚ) ^ units.log2 ≤ units := by
    exact_mod_cast Nat.log2_self_le hpositive.ne'
  have hmost : (units : ℚ) < 2 ^ (units.log2 + 1) := by
    exact_mod_cast (Nat.lt_log2_self : units < 2 ^ (units.log2 + 1))
  rw [leadingExponent_eq]
  split
  case isTrue htest =>
    refine ⟨(one_le_ratio_iff units _).mp htest, ?_⟩
    rw [div_lt_iff₀ unitsPerOne_cast_pos, add_assoc]
    exact hmost.trans_le hupper
  case isFalse htest =>
    refine ⟨?_, not_le.mp (mt (one_le_ratio_iff units _).mpr htest)⟩
    rw [le_div_iff₀ unitsPerOne_cast_pos]
    exact hlower.trans hleast

variable {rank : Nat} {x : Decimal}

theorem log2_unitsOfRank (hrank : rank < infiniteRank) : (unitsOfRank rank).log2 < 2098 := by
  obtain ⟨m, k, hsplit, hunits, hm, hnormal⟩ := exists_mantissa rank
  rcases Nat.eq_zero_or_pos (unitsOfRank rank) with hzero | hpositive
  · rw [hzero]
    decide
  · have hk : k ≤ 2045 := by
      unfold infiniteRank at hrank
      omega
    rw [Nat.log2_lt hpositive.ne', hunits]
    calc m * 2 ^ k < 2 ^ 53 * 2 ^ k := Nat.mul_lt_mul_of_pos_right hm (Nat.two_pow_pos k)
      _ = 2 ^ (53 + k) := (Nat.pow_add 2 53 k).symm
      _ ≤ 2 ^ 2098 := Nat.pow_le_pow_right (by decide) (by omega)

theorem leadingExponent_magnitude (hpositive : 0 < rank) (hrank : rank < infiniteRank) :
    10 ^ leadingExponent (unitsOfRank rank) ≤ magnitude rank ∧
      magnitude rank < 10 ^ (leadingExponent (unitsOfRank rank) + 1) :=
  leadingExponent_spec
    (unitsOfRank_pos hpositive)
    (log2_unitsOfRank hrank)

/-! ## Neighbours on a grid -/

theorem roundQuotient_cases (a b : Nat) :
    roundQuotient a b = a / b ∨ roundQuotient a b = a / b + 1 := by
  unfold roundQuotient
  dsimp only
  split
  · exact .inr rfl
  · exact .inl rfl

theorem abs_roundQuotient_sub_le (a : Nat) {b : Nat} (hb : 0 < b) :
    2 * |(roundQuotient a b : ℚ) - a / b| ≤ 1 := by
  have hnearest := nearest_roundQuotient a hb
  have hcast : (0 : ℚ) < b := by exact_mod_cast hb
  have hle : 2 * (roundQuotient a b * b : ℚ) ≤ 2 * a + b := by exact_mod_cast hnearest.le
  have hge : 2 * (a : ℚ) ≤ 2 * (roundQuotient a b * b) + b := by exact_mod_cast hnearest.ge
  have ha : (a : ℚ) = a / b * b := (div_mul_cancel₀ _ hcast.ne').symm
  rw [ha] at hle hge
  have hup : 2 * (roundQuotient a b : ℚ) ≤ 2 * (a / b) + 1 := by
    refine le_of_mul_le_mul_right ?_ hcast
    linarith
  have hdown : 2 * ((a : ℚ) / b) ≤ 2 * roundQuotient a b + 1 := by
    refine le_of_mul_le_mul_right ?_ hcast
    linarith
  rw [← le_div_iff₀' two_pos, abs_le]
  constructor <;> linarith

theorem div_lt_div_add_one (a : Nat) {b : Nat} (hb : 0 < b) :
    (a : ℚ) / b < (a / b : ℕ) + 1 := by
  rw [div_lt_iff₀ (by exact_mod_cast hb)]
  exact_mod_cast Nat.lt_mul_of_div_lt (Nat.lt_succ_self (a / b)) hb

/-- The two neighbours of a magnitude, and the nearer one. -/
theorem gridNeighbours_spec (units : Nat) (exponent : Int) :
    ∃ below nearest other,
      gridNeighbours units exponent = [⟨nearest, exponent⟩, ⟨other, exponent⟩] ∧
      (nearest = below ∧ other = below + 1 ∨ nearest = below + 1 ∧ other = below) ∧
      (⟨below, exponent⟩ : Decimal).value ≤ units / unitsPerOne ∧
      (units : ℚ) / unitsPerOne < (⟨below + 1, exponent⟩ : Decimal).value ∧
      2 * |(⟨nearest, exponent⟩ : Decimal).value - units / unitsPerOne| ≤ 10 ^ exponent := by
  have hden := ratio_den_pos units (-exponent) 1
  have hdiv := ratio_div units (-exponent) 1
  have hten : (0 : ℚ) < 10 ^ exponent := by positivity
  have hneighbours : gridNeighbours units exponent =
      [⟨roundQuotient (ratio units (-exponent) 1).1 ((ratio units (-exponent) 1).2 * unitsPerOne),
        exponent⟩,
      ⟨if roundQuotient (ratio units (-exponent) 1).1
          ((ratio units (-exponent) 1).2 * unitsPerOne) =
            (ratio units (-exponent) 1).1 / ((ratio units (-exponent) 1).2 * unitsPerOne)
        then (ratio units (-exponent) 1).1 / ((ratio units (-exponent) 1).2 * unitsPerOne) + 1
        else (ratio units (-exponent) 1).1 / ((ratio units (-exponent) 1).2 * unitsPerOne),
        exponent⟩] := rfl
  rw [hneighbours]
  generalize (ratio units (-exponent) 1).1 = n at *
  generalize (ratio units (-exponent) 1).2 = d at *
  have hscale : 0 < d * unitsPerOne := Nat.mul_pos hden unitsPerOne_pos
  have hgrid : (units : ℚ) / unitsPerOne = n / (d * unitsPerOne : ℕ) * 10 ^ exponent := by
    rw [Nat.cast_mul, ← div_div, hdiv, zpow_neg, Nat.cast_one, mul_one, div_mul_eq_mul_div,
      inv_mul_cancel_right₀ hten.ne']
  rw [hgrid]
  generalize d * unitsPerOne = scale at *
  refine ⟨n / scale, _, _, rfl, ?_, ?_, ?_, ?_⟩
  · rcases roundQuotient_cases n scale with hround | hround
    · exact .inl ⟨hround, if_pos hround⟩
    · exact .inr ⟨hround, if_neg (by omega)⟩
  · exact mul_le_mul_of_nonneg_right Nat.cast_div_le hten.le
  · have hlt := mul_lt_mul_of_pos_right (div_lt_div_add_one n hscale) hten
    rwa [← Nat.cast_add_one] at hlt
  · rw [value, ← sub_mul, abs_mul, abs_of_pos hten, ← mul_assoc]
    exact mul_le_of_le_one_left hten.le (abs_roundQuotient_sub_le n hscale)

/-- If some fraction of a grid is rounded to a rank, then so is a neighbour of the rank's
magnitude: both lie on the same side of it, and the neighbour is the closer one. -/
theorem exists_neighbour (hx : x.rank = rank) :
    ∃ candidate ∈ gridNeighbours (unitsOfRank rank) x.exponent, candidate.rank = rank := by
  obtain ⟨below, nearest, other, hgrid, hcases, hbelow, habove, -⟩ :=
    gridNeighbours_spec (unitsOfRank rank) x.exponent
  have hmem : ∀ digits, digits = below ∨ digits = below + 1 →
      (⟨digits, x.exponent⟩ : Decimal) ∈ gridNeighbours (unitsOfRank rank) x.exponent := by
    rw [hgrid]
    intro digits hdigits
    rcases hcases with ⟨rfl, rfl⟩ | ⟨rfl, rfl⟩ <;> rcases hdigits with rfl | rfl <;> simp
  have hten : (0 : ℚ) < 10 ^ x.exponent := by positivity
  have hvalue : ∀ digits : Nat, x.digits ≤ digits →
      x.value ≤ (⟨digits, x.exponent⟩ : Decimal).value := by
    intro digits hdigits
    exact mul_le_mul_of_nonneg_right (by exact_mod_cast hdigits) hten.le
  have hvalue' : ∀ digits : Nat, digits ≤ x.digits →
      (⟨digits, x.exponent⟩ : Decimal).value ≤ x.value := by
    intro digits hdigits
    exact mul_le_mul_of_nonneg_right (by exact_mod_cast hdigits) hten.le
  rcases Nat.lt_or_ge below x.digits with hgreater | hless
  · refine ⟨_, hmem (below + 1) (.inr rfl), Nat.le_antisymm ?_ (le_rank habove.le)⟩
    exact (rank_mono (hvalue' _ hgreater)).trans hx.le
  · refine ⟨_, hmem below (.inl rfl), Nat.le_antisymm (rank_le hbelow) ?_⟩
    exact hx.ge.trans (rank_mono (hvalue _ hless))

theorem exists_seventeen_digits (hpositive : 0 < rank) (hrank : rank < infiniteRank) :
    ∃ candidate ∈ gridNeighbours (unitsOfRank rank) (leadingExponent (unitsOfRank rank) - 16),
      candidate.rank = rank := by
  obtain ⟨hleading, -⟩ := leadingExponent_magnitude hpositive hrank
  obtain ⟨below, nearest, other, hgrid, -, -, -, hnear⟩ :=
    gridNeighbours_spec (unitsOfRank rank) (leadingExponent (unitsOfRank rank) - 16)
  rw [hgrid]
  refine ⟨_, List.mem_cons_self, rank_of_near ?_⟩
  generalize leadingExponent (unitsOfRank rank) = leading at *
  have hfine : (10 : ℚ) ^ leading = 10 ^ (leading - 16) * 10 ^ 16 := by
    rw [← zpow_natCast, ← zpow_add₀ (by norm_num)]
    congr 1
    omega
  have hstep : (0 : ℚ) < 10 ^ (leading - 16) := by positivity
  rw [hfine] at hleading
  change 2 * |_ - magnitude rank| ≤ _ at hnear
  linarith

/-! ## The search -/

/-- The neighbour with so many digits after the leading one that is rounded to the rank. -/
def neighbour? (rank more : Nat) : Option Decimal :=
  (gridNeighbours (unitsOfRank rank) (leadingExponent (unitsOfRank rank) - more)).find?
    fun candidate => candidate.rank == rank

theorem shortestOfRank_eq (rank : Nat) : shortestOfRank rank = stripZeros 17
    (((List.range 17).findSome? (neighbour? rank)).getD ⟨unitsOfRank rank, -1074⟩) := rfl

theorem rank_of_neighbour? {more : Nat} {candidate : Decimal}
    (h : neighbour? rank more = some candidate) : candidate.rank = rank := by
  simpa using List.find?_some h

theorem neighbour?_isSome_iff (rank more : Nat) : (neighbour? rank more).isSome = true ↔
    ∃ candidate ∈ gridNeighbours (unitsOfRank rank) (leadingExponent (unitsOfRank rank) - more),
      candidate.rank = rank := by
  rw [neighbour?, List.find?_isSome]
  simp only [beq_iff_eq]

/-- The shortest digits of a finite number other than zero are rounded to it. -/
theorem rank_shortestOfRank (hpositive : 0 < rank) (hrank : rank < infiniteRank) :
    (shortestOfRank rank).rank = rank := by
  have hsome : ((List.range 17).findSome? (neighbour? rank)).isSome = true := by
    rw [List.findSome?_isSome_iff]
    exact ⟨16, by decide,
      (neighbour?_isSome_iff rank 16).mpr (exists_seventeen_digits hpositive hrank)⟩
  obtain ⟨candidate, hcandidate⟩ := Option.isSome_iff_exists.mp hsome
  obtain ⟨more, -, hmore⟩ := List.exists_of_findSome?_eq_some hcandidate
  rw [shortestOfRank_eq, hcandidate, Option.getD_some, ← rank_of_neighbour? hmore]
  exact rank_congr (value_stripZeros 17 candidate)

theorem value_one (exponent : Int) : (⟨1, exponent⟩ : Decimal).value = 10 ^ exponent := by
  simp [value]

theorem value_ten (exponent : Int) : (⟨10, exponent⟩ : Decimal).value = 10 ^ (exponent + 1) := by
  rw [value, zpow_add_one₀ (by norm_num)]
  push_cast
  ring

theorem exists_coarse_neighbour (hpositive : 0 < rank) (hrank : rank < infiniteRank)
    (hdigits : 1 ≤ x.digits ∧ x.digits ≤ 9) (hx : x.rank = rank) :
    ∃ candidate ∈ gridNeighbours (unitsOfRank rank) (leadingExponent (unitsOfRank rank)),
      candidate.rank = rank := by
  obtain ⟨hlower, hupper⟩ := leadingExponent_magnitude hpositive hrank
  generalize leadingExponent (unitsOfRank rank) = leading at *
  have hten : (0 : ℚ) < 10 ^ x.exponent := by positivity
  have hleast : (1 : ℚ) ≤ x.digits := by exact_mod_cast hdigits.1
  have hmost : (x.digits : ℚ) ≤ 9 := by exact_mod_cast hdigits.2
  -- the power of ten between the one digit and the magnitude is on the grid
  rcases lt_trichotomy x.exponent leading with hless | heq | hgreater
  · have hvalue : x.value ≤ (⟨1, leading⟩ : Decimal).value := by
      have hpower : (10 : ℚ) ^ (x.exponent + 1) ≤ 10 ^ leading :=
        zpow_le_zpow_right₀ (by norm_num) hless
      rw [zpow_add_one₀ (by norm_num)] at hpower
      rw [value_one, value]
      nlinarith
    refine exists_neighbour (x := ⟨1, leading⟩)
      (Nat.le_antisymm ?_ (hx.ge.trans (rank_mono hvalue)))
    exact rank_le (by rwa [value_one])
  · rw [← heq]
    exact exists_neighbour hx
  · have hvalue : (⟨10, leading⟩ : Decimal).value ≤ x.value := by
      have hpower : (10 : ℚ) ^ (leading + 1) ≤ 10 ^ x.exponent :=
        zpow_le_zpow_right₀ (by norm_num) hgreater
      rw [value_ten, value]
      nlinarith
    refine exists_neighbour (x := ⟨10, leading⟩)
      (Nat.le_antisymm ((rank_mono hvalue).trans hx.le) ?_)
    exact le_rank (by rw [value_ten]; exact hupper.le)

theorem digits_of_mem_gridNeighbours (hpositive : 0 < rank) (hrank : rank < infiniteRank)
    {candidate : Decimal}
    (h : candidate ∈ gridNeighbours (unitsOfRank rank) (leadingExponent (unitsOfRank rank))) :
    1 ≤ candidate.digits ∧ candidate.digits ≤ 10 := by
  obtain ⟨hlower, hupper⟩ := leadingExponent_magnitude hpositive hrank
  obtain ⟨below, nearest, other, hgrid, hcases, hbelow, habove, -⟩ :=
    gridNeighbours_spec (unitsOfRank rank) (leadingExponent (unitsOfRank rank))
  rw [hgrid] at h
  have hten : (0 : ℚ) < 10 ^ leadingExponent (unitsOfRank rank) := by positivity
  generalize leadingExponent (unitsOfRank rank) = leading at *
  have hleast : 1 ≤ below := by
    have hlt : 1 * (10 : ℚ) ^ leading < (below + 1 : ℕ) * 10 ^ leading := by
      rw [one_mul]
      exact hlower.trans_lt habove
    have : 1 < below + 1 := by exact_mod_cast (mul_lt_mul_iff_left₀ hten).mp hlt
    omega
  have hmost : below ≤ 9 := by
    rw [zpow_add_one₀ (by norm_num), mul_comm] at hupper
    have hlt : (below : ℚ) * 10 ^ leading < 10 * 10 ^ leading := hbelow.trans_lt hupper
    have : below < 10 := by exact_mod_cast (mul_lt_mul_iff_left₀ hten).mp hlt
    omega
  simp only [List.mem_cons, List.not_mem_nil, or_false] at h
  rcases hcases with ⟨rfl, rfl⟩ | ⟨rfl, rfl⟩ <;> rcases h with rfl | rfl <;> dsimp only <;> omega

theorem digits_stripZeros (hx : 1 ≤ x.digits ∧ x.digits ≤ 10) (fuel : Nat) :
    1 ≤ (stripZeros (fuel + 2) x).digits ∧ (stripZeros (fuel + 2) x).digits ≤ 9 := by
  obtain ⟨digits, exponent⟩ := x
  obtain ⟨hleast, hmost⟩ := hx
  dsimp only at hleast hmost
  interval_cases digits <;> simp [stripZeros]

/-- If one digit suffices for a number, its shortest digits are one digit. -/
theorem digits_shortestOfRank (hpositive : 0 < rank) (hrank : rank < infiniteRank)
    (hdigits : 1 ≤ x.digits ∧ x.digits ≤ 9) (hx : x.rank = rank) :
    1 ≤ (shortestOfRank rank).digits ∧ (shortestOfRank rank).digits ≤ 9 := by
  have hsome : (neighbour? rank 0).isSome = true := by
    rw [neighbour?_isSome_iff, Nat.cast_zero, sub_zero]
    exact exists_coarse_neighbour hpositive hrank hdigits hx
  obtain ⟨candidate, hcandidate⟩ := Option.isSome_iff_exists.mp hsome
  have hfirst : (List.range 17).findSome? (neighbour? rank) = some candidate := by
    rw [List.range_succ_eq_map, List.findSome?_cons, hcandidate]
  rw [shortestOfRank_eq, hfirst, Option.getD_some]
  have hmem := List.mem_of_find?_eq_some hcandidate
  rw [Nat.cast_zero, sub_zero] at hmem
  exact digits_stripZeros (digits_of_mem_gridNeighbours hpositive hrank hmem) 15

end Binary64

end ScriptStudio
