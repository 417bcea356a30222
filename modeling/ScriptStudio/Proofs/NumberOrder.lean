import Mathlib.Algebra.Order.Ring.Int
import Mathlib.Data.Prod.Lex
import ScriptStudio.Value

/-!
# The order of numbers

Integers and 64-bit numbers lie on one line: all numbers but not-a-number have a point there, and
two numbers compare as their points do.

* `Number.point?`, `Number.compare?_of_point`: the line.
* `Number.undirected_iff`: the numbers that lead neither up nor down.
-/

namespace ScriptStudio

theorem Binary64.unitsPerOne_pos : 0 < unitsPerOne := by
  unfold unitsPerOne
  generalize 1074 = exponent
  exact Nat.two_pow_pos exponent

theorem Binary64.unitsOfRank_eq_zero_iff (rank : Nat) : unitsOfRank rank = 0 ↔ rank = 0 := by
  have hdivided := Nat.div_add_mod rank (Nat.pow 2 52)
  have hpow : 0 < Nat.pow 2 (rank / Nat.pow 2 52 - 1) := Nat.two_pow_pos _
  have hblock : Nat.pow 2 52 = 4503599627370496 := by decide
  unfold unitsOfRank
  simp only [Nat.mul_eq_zero, hpow.ne', or_false]
  generalize rank / Nat.pow 2 52 = quotient at hdivided ⊢
  rw [hblock] at hdivided ⊢
  omega

theorem Binary64.signedUnits_eq_zero_iff (negative : Bool) (rank : Nat) :
    signedUnits negative rank = 0 ↔ rank = 0 := by
  rw [← unitsOfRank_eq_zero_iff]
  cases negative <;> simp [signedUnits]

namespace Number

/-- The point of a number on the line. -/
def point? (x : Number) : Option (Int ×ₗ Int) := x.position?.map toLex

theorem point?_eq_none_iff (x : Number) : x.point? = none ↔ x = .float .nan := by
  rw [point?, Option.map_eq_none_iff]
  constructor
  · intro hnowhere
    rcases x with n | (⟨negative, rank⟩ | negative | _)
    · cases hnowhere
    · cases hnowhere
    · cases hnowhere
    · rfl
  · rintro rfl
    rfl

theorem exists_unit :
    ∃ unit : Int, 0 < unit ∧ ∀ n : Int, (int n).point? = some (toLex (0, n * unit)) :=
  ⟨Binary64.unitsPerOne, by exact_mod_cast Binary64.unitsPerOne_pos, fun _ => rfl⟩

theorem compare_mul_of_pos {unit : Int} (hunit : 0 < unit) (m n : Int) :
    compare (m * unit) (n * unit) = compare m n := by
  rcases lt_trichotomy m n with hlt | rfl | hgt
  · rw [Int.compare_eq_lt.mpr hlt, Int.compare_eq_lt.mpr (Int.mul_lt_mul_of_pos_right hlt hunit)]
  · rw [Int.compare_eq_eq.mpr rfl, Int.compare_eq_eq.mpr rfl]
  · rw [Int.compare_eq_gt.mpr hgt, Int.compare_eq_gt.mpr (Int.mul_lt_mul_of_pos_right hgt hunit)]

/-- Numbers compare as their points do. -/
theorem compare?_of_point {x y : Number} {p q : Int ×ₗ Int} (hx : x.point? = some p)
    (hy : y.point? = some q) : x.compare? y = some (compare p q) := by
  have hpoints : ∀ p q : Int × Int,
      compare (toLex p) (toLex q) = (compare p.1 q.1).then (compare p.2 q.2) := fun _ _ => rfl
  unfold compare?
  split
  -- two integers compare without their points
  · obtain ⟨unit, hunit, hint⟩ := exists_unit
    rw [hint, Option.some.injEq] at hx hy
    rw [← hx, ← hy, hpoints, compare_mul_of_pos hunit]
    rfl
  · obtain ⟨p, hp, rfl⟩ := Option.map_eq_some_iff.mp hx
    obtain ⟨q, hq, rfl⟩ := Option.map_eq_some_iff.mp hy
    rw [hp, hq, hpoints]
    rfl

theorem isZero_iff_point (x : Number) : x.isZero = true ↔ x.point? = some (toLex (0, 0)) := by
  rcases x with n | (⟨negative, rank⟩ | negative | _)
  · obtain ⟨unit, hunit, hint⟩ := exists_unit
    simp [hint, isZero, hunit.ne']
  · have hpoint : (float (.finite negative rank)).point? =
        some (toLex (0, Binary64.signedUnits negative rank)) := rfl
    simp [hpoint, isZero, Binary64.isZero, Binary64.signedUnits_eq_zero_iff]
  · cases negative <;> decide
  · decide

/-- A number that is neither above zero nor below it is zero, or it is not-a-number. -/
theorem undirected_iff (x : Number) :
    (x.isPositive || x.isNegative) = false ↔ x.isZero = true ∨ x = .float .nan := by
  have hzero : (int 0).point? = some (toLex (0, 0)) := (isZero_iff_point _).mp rfl
  rw [isZero_iff_point, ← point?_eq_none_iff]
  cases hpoint : x.point? with
  | none =>
    obtain rfl := (point?_eq_none_iff x).mp hpoint
    have hnowhere : (float .nan).compare? (int 0) = none := rfl
    simp [isPositive, isNegative, hnowhere]
  | some p =>
    have hequal : p = toLex (0, 0) ↔ compare p (toLex (0, 0)) = .eq := compare_eq_iff_eq.symm
    simp only [isPositive, isNegative, compare?_of_point hpoint hzero, Option.some.injEq, hequal,
      reduceCtorEq, or_false]
    cases compare p (toLex (0, 0)) <;> decide

end Number

end ScriptStudio
