import Mathlib.Algebra.Order.Field.Basic
import Mathlib.Data.Rat.Cast.Order
import Mathlib.Tactic.NormNum
import Mathlib.Tactic.Ring
import PayGraph.Number.Basic

/-!
# The range of double precision

A ratio rounds to a finite value if and only if it lies below `2 ^ 1024 - 2 ^ 970`, the midpoint
between the largest finite value and the power of two after it.
-/

namespace PayGraph
namespace Binary64

/-- Below an odd bound a ratio rounds to it at most if it lies short of the midpoint after it. -/
theorem roundDiv_le_iff {numerator denominator bound : Nat} (positive : 0 < denominator)
    (odd : bound % 2 = 1) :
    roundDiv numerator denominator ≤ bound ↔ 2 * numerator < (2 * bound + 1) * denominator := by
  have parts := Nat.div_add_mod numerator denominator
  have rest_lt := Nat.mod_lt numerator positive
  have midpoint : (2 * bound + 1) * denominator = 2 * (denominator * bound) + denominator := by ring
  simp only [roundDiv, midpoint]
  generalize numerator / denominator = quotient at parts ⊢
  generalize numerator % denominator = rest at parts rest_lt ⊢
  rcases Nat.lt_trichotomy quotient bound with below | rfl | above
  · have step : denominator * (quotient + 1) ≤ denominator * bound := Nat.mul_le_mul_left _ below
    rw [Nat.mul_succ] at step
    split_ifs <;> omega
  · split_ifs <;> omega
  · have step : denominator * (bound + 1) ≤ denominator * quotient := Nat.mul_le_mul_left _ above
    rw [Nat.mul_succ] at step
    split_ifs <;> omega

theorem roundDiv_bounds (numerator denominator : Nat) :
    numerator / denominator ≤ roundDiv numerator denominator ∧
      roundDiv numerator denominator ≤ numerator / denominator + 1 := by
  simp only [roundDiv]
  split_ifs <;> omega

theorem two_pow_le_mul {exponent left right : Nat} (le : exponent ≤ left + right) :
    2 ^ exponent ≤ 2 ^ left * 2 ^ right := by
  rw [← Nat.pow_add]
  exact Nat.pow_le_pow_right Nat.two_pos le

theorem mul_two_pow_le {exponent left right : Nat} (le : left + right ≤ exponent) :
    2 ^ left * 2 ^ right ≤ 2 ^ exponent := by
  rw [← Nat.pow_add]
  exact Nat.pow_le_pow_right Nat.two_pos le

theorem div_binade_lt (whole : Nat) : whole / 2 ^ (whole.log2 - 52) < 2 ^ 53 := by
  rw [Nat.div_lt_iff_lt_mul (Nat.two_pow_pos _), ← Nat.pow_add]
  refine Nat.lt_of_lt_of_le Nat.lt_log2_self (Nat.pow_le_pow_right (by decide) ?_)
  omega

theorem le_div_binade (whole : Nat) (large : 52 ≤ whole.log2) :
    2 ^ 52 ≤ whole / 2 ^ (whole.log2 - 52) := by
  have nonzero : whole ≠ 0 := by
    rintro rfl
    simp at large
  rw [Nat.le_div_iff_mul_le (Nat.two_pow_pos _), ← Nat.pow_add, Nat.add_sub_cancel' large]
  exact Nat.log2_self_le nonzero

/-- A ratio keeps to the first ranks of the format, up to a power of two, if and only if it lies
below the midpoint in front of that power. -/
theorem nearestRank_lt_iff (numerator binades : Nat) {denominator : Nat}
    (positive : 0 < denominator) :
    nearestRank numerator denominator < (binades + 3) * 2 ^ 52 ↔
      numerator < (2 ^ 54 - 1) * 2 ^ binades * denominator := by
  have last_rank (rank : Nat) : (binades + 1) * 2 ^ 52 + rank < (binades + 3) * 2 ^ 52 ↔
      rank ≤ 2 ^ 53 - 1 := by omega
  rw [← Nat.div_lt_iff_lt_mul positive]
  simp only [nearestRank, Nat.pow_eq]
  have rounded := roundDiv_bounds numerator
    (denominator * 2 ^ ((numerator / denominator).log2 - 52))
  rw [← Nat.div_div_eq_div_mul] at rounded
  have upper := div_binade_lt (numerator / denominator)
  rcases Nat.lt_trichotomy ((numerator / denominator).log2 - 52) (binades + 1) with
    small | last | large
  · have fits : 2 ^ ((numerator / denominator).log2 + 1) ≤ 2 ^ 53 * 2 ^ binades :=
      two_pow_le_mul (by omega)
    have whole_lt : numerator / denominator < 2 ^ ((numerator / denominator).log2 + 1) :=
      Nat.lt_log2_self
    refine iff_of_true ?_ ?_ <;> omega
  · rw [last]
    have carried : roundDiv numerator (denominator * 2 ^ (binades + 1)) ≤ 2 ^ 53 - 1 ↔
        2 * numerator < (2 * (2 ^ 53 - 1) + 1) * (denominator * 2 ^ (binades + 1)) :=
      roundDiv_le_iff (Nat.mul_pos positive (Nat.two_pow_pos _)) (by decide)
    have midpoint : (2 * (2 ^ 53 - 1) + 1) * (denominator * 2 ^ (binades + 1)) =
        2 * ((2 ^ 54 - 1) * 2 ^ binades * denominator) := by ring
    rw [last_rank, carried, midpoint, Nat.mul_lt_mul_left Nat.two_pos,
      Nat.div_lt_iff_lt_mul positive]
  · have lower := le_div_binade (numerator / denominator) (by omega)
    have whole_le : 2 ^ (numerator / denominator).log2 ≤ numerator / denominator := by
      refine Nat.log2_self_le fun zero => ?_
      simp [zero] at large
    have beyond : 2 ^ 54 * 2 ^ binades ≤ 2 ^ (numerator / denominator).log2 :=
      mul_two_pow_le (by omega)
    refine iff_of_false ?_ ?_ <;> omega

theorem nearestRank_pos {numerator denominator : Nat} (positive : 0 < denominator)
    (le : denominator ≤ numerator) : 0 < nearestRank numerator denominator := by
  have whole_pos : 0 < numerator / denominator := Nat.div_pos le positive
  simp only [nearestRank, Nat.pow_eq]
  rcases Nat.eq_zero_or_pos ((numerator / denominator).log2 - 52) with first | later
  · rw [first, Nat.pow_zero, Nat.mul_one]
    exact Nat.add_pos_right _ (whole_pos.trans_le (roundDiv_bounds numerator denominator).1)
  · exact Nat.add_pos_left (Nat.mul_pos later (Nat.two_pow_pos 52)) _

/-- A finite value. -/
def IsFinite (value : Binary64) : Prop :=
  ∃ negative rank, value = .finite negative rank

/-- The number that a finite value stands for; the others count as zero. -/
def toRat : Binary64 → ℚ
  | .finite negative rank => signedUnits negative rank / unitsPerOne
  | .nan | .infinite _ => 0

/-- Least magnitude that is too large for a finite value. -/
def limit : ℚ := 2 ^ 1024 - 2 ^ 970

theorem unitsPerOne_pos : 0 < unitsPerOne := by decide +kernel

theorem midpoint_mul_two_pow {large small scale sum : Nat} (large_eq : large = 54 + small)
    (sum_eq : sum = small + scale) :
    ((2 : ℚ) ^ large - 2 ^ small) * (Nat.pow 2 scale : Nat) = ((2 ^ 54 - 1) * 2 ^ sum : Nat) := by
  rw [large_eq, sum_eq, Nat.pow_eq]
  push_cast
  rw [pow_add, pow_add]
  norm_num
  ring

theorem limit_mul_unitsPerOne : limit * unitsPerOne = ((2 ^ 54 - 1) * 2 ^ 2044 : Nat) := by
  unfold limit unitsPerOne
  apply midpoint_mul_two_pow <;> rfl

/-- A ratio of units rounds to a finite value if and only if it lies below the limit. -/
theorem ofRatio?_eq_none_iff (negative : Bool) (numerator : Nat) {denominator : Nat}
    (positive : 0 < denominator) :
    ofRatio? negative numerator denominator = none ↔
      limit * unitsPerOne ≤ (numerator : ℚ) / denominator := by
  have finite_iff := nearestRank_lt_iff numerator 2044 positive
  have cast_positive : (0 : ℚ) < denominator := Nat.cast_pos.mpr positive
  rw [limit_mul_unitsPerOne, le_div_iff₀ cast_positive, ← Nat.cast_mul, Nat.cast_le, ← Nat.not_lt,
    ← finite_iff, ofRatio?]
  split
  · rename_i bounded
    exact iff_of_false nofun (not_not_intro bounded)
  · rename_i unbounded
    exact iff_of_true rfl unbounded

theorem isFinite_of_ofRatio? {negative : Bool} {numerator denominator : Nat} {value : Binary64}
    (rounded : ofRatio? negative numerator denominator = some value) : value.IsFinite := by
  rw [ofRatio?] at rounded
  split at rounded
  · cases rounded
    exact ⟨_, _, rfl⟩
  · cases rounded

theorem not_isFinite_nan : ¬IsFinite .nan := by
  rintro ⟨_, _, same⟩
  cases same

theorem not_isFinite_infinite (negative : Bool) : ¬IsFinite (.infinite negative) := by
  rintro ⟨_, _, same⟩
  cases same

theorem isFinite_ofRatio_iff (negative : Bool) (numerator : Nat) {denominator : Nat}
    (positive : 0 < denominator) :
    (ofRatio negative numerator denominator).IsFinite ↔
      (numerator : ℚ) / denominator < limit * unitsPerOne := by
  rw [← not_le, ← ofRatio?_eq_none_iff negative numerator positive, ofRatio]
  cases rounded : ofRatio? negative numerator denominator with
  | none => exact iff_of_false (not_isFinite_infinite negative) (not_not_intro rfl)
  | some value => exact iff_of_true (isFinite_of_ofRatio? rounded) nofun

theorem natAbs_signedUnits (negative : Bool) (rank : Nat) :
    (signedUnits negative rank).natAbs = units rank := by
  rw [signedUnits]
  split
  · rw [Int.natAbs_neg, Int.natAbs_natCast]
  · rw [Int.natAbs_natCast]

theorem signedUnits_not (negative : Bool) (rank : Nat) :
    signedUnits (!negative) rank = -signedUnits negative rank := by
  cases negative with
  | false => rw [Bool.not_false, signedUnits, if_pos rfl, signedUnits, if_neg Bool.false_ne_true]
  | true =>
      rw [Bool.not_true, signedUnits, if_neg Bool.false_ne_true, signedUnits, if_pos rfl,
        Int.neg_neg]

theorem abs_signedUnits (negative : Bool) (rank : Nat) :
    |(signedUnits negative rank : ℚ)| = units rank := by
  rw [← natAbs_signedUnits negative rank, Nat.cast_natAbs, Int.cast_abs]

theorem units_eq_zero_iff (rank : Nat) : units rank = 0 ↔ rank = 0 := by
  simp only [units, Nat.pow_eq]
  rw [Nat.mul_eq_zero, or_iff_left (Nat.two_pow_pos _).ne']
  omega

theorem limit_pos : 0 < limit := by
  unfold limit
  exact sub_pos.mpr (pow_lt_pow_right₀ one_lt_two (by decide))

theorem abs_toRat_finite (negative : Bool) (rank : Fin finiteRanks) :
    |(finite negative rank).toRat| = units rank / unitsPerOne := by
  rw [toRat, abs_div, abs_signedUnits, Nat.abs_cast]

theorem toRat_finite_eq_zero_iff (negative : Bool) (rank : Fin finiteRanks) :
    (finite negative rank).toRat = 0 ↔ rank.val = 0 := by
  have cast_ne : (unitsPerOne : ℚ) ≠ 0 := Nat.cast_ne_zero.mpr unitsPerOne_pos.ne'
  rw [← abs_eq_zero, abs_toRat_finite, div_eq_zero_iff, or_iff_left cast_ne, Nat.cast_eq_zero,
    units_eq_zero_iff]

section Operations

variable {left right : Binary64}

/-- A sum is finite if and only if the exact sum is not too large. -/
theorem isFinite_add_iff (left_finite : left.IsFinite) (right_finite : right.IsFinite) :
    (left.add right).IsFinite ↔ |left.toRat + right.toRat| < limit := by
  obtain ⟨leftNegative, left, rfl⟩ := left_finite
  obtain ⟨rightNegative, right, rfl⟩ := right_finite
  have cast_pos : (0 : ℚ) < unitsPerOne := Nat.cast_pos.mpr unitsPerOne_pos
  have total_eq : (finite leftNegative left).toRat + (finite rightNegative right).toRat =
      (signedUnits leftNegative left + signedUnits rightNegative right : Int) / unitsPerOne := by
    rw [toRat, toRat, ← add_div, Int.cast_add]
  rw [total_eq, abs_div, Nat.abs_cast, div_lt_iff₀ cast_pos, add]
  generalize signedUnits leftNegative left + signedUnits rightNegative right = total
  split
  · rename_i zero
    rw [zero, Int.cast_zero, abs_zero]
    exact iff_of_true ⟨_, _, rfl⟩ (mul_pos limit_pos cast_pos)
  · rw [isFinite_ofRatio_iff _ _ Nat.one_pos, Nat.cast_one, div_one, Nat.cast_natAbs, Int.cast_abs]

theorem IsFinite.neg (finite : left.IsFinite) : left.neg.IsFinite := by
  obtain ⟨negative, rank, rfl⟩ := finite
  exact ⟨_, _, rfl⟩

theorem toRat_neg (value : Binary64) : value.neg.toRat = -value.toRat := by
  cases value with
  | nan | infinite => exact neg_zero.symm
  | finite negative rank =>
      rw [neg, toRat, toRat, signedUnits_not, Int.cast_neg, neg_div]

/-- A difference is finite if and only if the exact difference is not too large. -/
theorem isFinite_sub_iff (left_finite : left.IsFinite) (right_finite : right.IsFinite) :
    (left.sub right).IsFinite ↔ |left.toRat - right.toRat| < limit := by
  rw [sub, isFinite_add_iff left_finite right_finite.neg, toRat_neg, sub_eq_add_neg]

theorem isFinite_mul_iff (left_finite : left.IsFinite) (right_finite : right.IsFinite) :
    (left.mul right).IsFinite ↔ |left.toRat * right.toRat| < limit := by
  obtain ⟨leftNegative, left, rfl⟩ := left_finite
  obtain ⟨rightNegative, right, rfl⟩ := right_finite
  have cast_pos : (0 : ℚ) < unitsPerOne := Nat.cast_pos.mpr unitsPerOne_pos
  rw [mul, isFinite_ofRatio_iff _ _ unitsPerOne_pos, abs_mul, abs_toRat_finite, abs_toRat_finite,
    Nat.cast_mul, div_mul_div_comm, ← div_div, div_lt_iff₀ cast_pos, div_lt_iff₀ cast_pos,
    div_lt_iff₀ cast_pos]

/-- A quotient is finite if and only if the exact quotient is not too large. -/
theorem isFinite_div_iff (left_finite : left.IsFinite) (right_finite : right.IsFinite)
    (nonzero : right.toRat ≠ 0) :
    (left.div right).IsFinite ↔ |left.toRat / right.toRat| < limit := by
  obtain ⟨leftNegative, left, rfl⟩ := left_finite
  obtain ⟨rightNegative, right, rfl⟩ := right_finite
  have cast_pos : (0 : ℚ) < unitsPerOne := Nat.cast_pos.mpr unitsPerOne_pos
  rw [ne_eq, toRat_finite_eq_zero_iff] at nonzero
  have units_pos : 0 < units right :=
    Nat.pos_of_ne_zero fun zero => nonzero ((units_eq_zero_iff _).mp zero)
  rw [div, if_neg nonzero, isFinite_ofRatio_iff _ _ units_pos, abs_div, abs_toRat_finite,
    abs_toRat_finite, div_div_div_cancel_right₀ cast_pos.ne', Nat.cast_mul, mul_div_right_comm,
    mul_lt_mul_iff_left₀ cast_pos]

/-- A finite sum has finite terms. -/
theorem isFinite_of_add (finite : (left.add right).IsFinite) : left.IsFinite ∧ right.IsFinite := by
  cases left with
  | nan => exact absurd finite not_isFinite_nan
  | infinite leftNegative =>
      cases right with
      | nan => exact absurd finite not_isFinite_nan
      | infinite rightNegative =>
          rw [add] at finite
          split at finite
          · exact absurd finite (not_isFinite_infinite _)
          · exact absurd finite not_isFinite_nan
      | finite => exact absurd finite (not_isFinite_infinite _)
  | finite =>
      cases right with
      | nan => exact absurd finite not_isFinite_nan
      | infinite => exact absurd finite (not_isFinite_infinite _)
      | finite => exact ⟨⟨_, _, rfl⟩, ⟨_, _, rfl⟩⟩

theorem isFinite_of_sub (finite : (left.sub right).IsFinite) : left.IsFinite ∧ right.IsFinite := by
  obtain ⟨left_finite, negative, rank, negated⟩ := isFinite_of_add finite
  refine ⟨left_finite, ?_⟩
  cases right with
  | nan | infinite => cases negated
  | finite => exact ⟨_, _, rfl⟩

/-- A finite product has finite factors. -/
theorem isFinite_of_mul (finite : (left.mul right).IsFinite) : left.IsFinite ∧ right.IsFinite := by
  cases left with
  | nan => exact absurd finite not_isFinite_nan
  | infinite leftNegative =>
      cases right with
      | nan => exact absurd finite not_isFinite_nan
      | infinite => exact absurd finite (not_isFinite_infinite _)
      | finite =>
          rw [mul] at finite
          split at finite
          · exact absurd finite not_isFinite_nan
          · exact absurd finite (not_isFinite_infinite _)
  | finite =>
      cases right with
      | nan => exact absurd finite not_isFinite_nan
      | infinite =>
          rw [mul] at finite
          split at finite
          · exact absurd finite not_isFinite_nan
          · exact absurd finite (not_isFinite_infinite _)
      | finite => exact ⟨⟨_, _, rfl⟩, ⟨_, _, rfl⟩⟩

theorem isFinite_of_div (finite : (left.div right).IsFinite) : left.IsFinite := by
  cases left with
  | nan => exact absurd finite not_isFinite_nan
  | infinite =>
      cases right with
      | nan | infinite => exact absurd finite not_isFinite_nan
      | finite => exact absurd finite (not_isFinite_infinite _)
  | finite => exact ⟨_, _, rfl⟩

end Operations

section Whole

/-- A whole number has no double-precision value if and only if it is too large. -/
theorem ofInt?_eq_none_iff (value : Int) : ofInt? value = none ↔ limit ≤ |(value : ℚ)| := by
  have cast_pos : (0 : ℚ) < unitsPerOne := Nat.cast_pos.mpr unitsPerOne_pos
  rw [ofInt?, ofRatio?_eq_none_iff _ _ Nat.one_pos, Nat.cast_one, div_one, Nat.cast_mul,
    Nat.cast_natAbs, Int.cast_abs, mul_le_mul_iff_left₀ cast_pos]

theorem ofQuotient?_eq_none_iff (dividend : Int) {divisor : Int} (nonzero : divisor ≠ 0) :
    ofQuotient? dividend divisor = none ↔ limit ≤ |(dividend / divisor : ℚ)| := by
  have cast_pos : (0 : ℚ) < unitsPerOne := Nat.cast_pos.mpr unitsPerOne_pos
  rw [ofQuotient?, ofRatio?_eq_none_iff _ _ (Int.natAbs_pos.mpr nonzero), Nat.cast_mul,
    Nat.cast_natAbs, Nat.cast_natAbs, Int.cast_abs, Int.cast_abs, abs_div, mul_div_right_comm,
    mul_le_mul_iff_left₀ cast_pos]

theorem toRat_ne_zero_of_ofInt? {value : Int} {real : Binary64} (nonzero : value ≠ 0)
    (converted : ofInt? value = some real) : real.toRat ≠ 0 := by
  rw [ofInt?, ofRatio?] at converted
  split at converted
  · cases converted
    rw [ne_eq, toRat_finite_eq_zero_iff]
    refine (nearestRank_pos Nat.one_pos (Nat.mul_pos ?_ unitsPerOne_pos)).ne'
    exact Int.natAbs_pos.mpr nonzero
  · cases converted

end Whole

end Binary64
end PayGraph
