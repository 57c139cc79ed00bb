import PayGraph.Proofs.Number.Range

/-!
# Exact rounding

Rounding depends on a ratio only, not on the fraction that writes it, and it keeps every value that
double precision holds: the rank nearest to the units of a rank is that rank.
-/

namespace PayGraph
namespace Binary64

theorem roundDiv_mul_self (quotient : Nat) {denominator : Nat} (positive : 0 < denominator) :
    roundDiv (quotient * denominator) denominator = quotient := by
  simp only [roundDiv]
  rw [Nat.mul_div_cancel _ positive, Nat.mul_mod_left, Nat.mul_zero, if_pos positive]

theorem roundDiv_mul_right (numerator denominator : Nat) {scale : Nat} (positive : 0 < scale) :
    roundDiv (numerator * scale) (denominator * scale) = roundDiv numerator denominator := by
  have rest_eq : 2 * (numerator * scale % (denominator * scale)) =
      2 * (numerator % denominator) * scale := by
    rw [Nat.mul_mod_mul_right, Nat.mul_assoc]
  simp only [roundDiv]
  rw [Nat.mul_div_mul_right _ _ positive, rest_eq]
  simp only [Nat.mul_lt_mul_right positive]

theorem nearestRank_mul_right (numerator denominator : Nat) {scale : Nat} (positive : 0 < scale) :
    nearestRank (numerator * scale) (denominator * scale) = nearestRank numerator denominator := by
  simp only [nearestRank]
  rw [Nat.mul_div_mul_right _ _ positive, Nat.mul_right_comm denominator scale,
    roundDiv_mul_right _ _ positive]

theorem nearestRank_congr {numerator denominator other scale : Nat} (positive : 0 < denominator)
    (scale_pos : 0 < scale) (same : numerator * scale = other * denominator) :
    nearestRank numerator denominator = nearestRank other scale := by
  rw [← nearestRank_mul_right numerator denominator scale_pos, same, Nat.mul_comm denominator,
    nearestRank_mul_right other scale positive]

/-- Every finite value is the nearest one to itself. -/
theorem nearestRank_units (rank : Nat) : nearestRank (units rank) 1 = rank := by
  simp only [nearestRank, units, Nat.pow_eq, Nat.div_one, Nat.one_mul]
  rcases Nat.lt_or_ge rank (2 ^ 52) with subnormal | normal
  · have first : rank / 2 ^ 52 - 1 = 0 := by omega
    have small : rank.log2 - 52 = 0 := by
      rcases Nat.eq_zero_or_pos rank with rfl | positive
      · rfl
      · have fits := (Nat.log2_lt positive.ne').mpr subnormal
        omega
    rw [first, Nat.zero_mul, Nat.sub_zero, Nat.pow_zero, Nat.mul_one, small]
    have kept := roundDiv_mul_self rank Nat.one_pos
    rw [Nat.mul_one] at kept
    rw [Nat.zero_mul, Nat.zero_add, Nat.pow_zero, kept]
  · generalize shift_eq : rank / 2 ^ 52 - 1 = shift
    have lower : 2 ^ 52 ≤ rank - shift * 2 ^ 52 := by omega
    have upper : rank - shift * 2 ^ 52 < 2 ^ 53 := by omega
    have nonzero : (rank - shift * 2 ^ 52) * 2 ^ shift ≠ 0 := by
      refine Nat.mul_ne_zero ?_ (Nat.two_pow_pos shift).ne'
      omega
    have binade : ((rank - shift * 2 ^ 52) * 2 ^ shift).log2 = 52 + shift := by
      rw [Nat.log2_eq_iff nonzero, Nat.add_right_comm, Nat.pow_add, Nat.pow_add]
      exact ⟨Nat.mul_le_mul_right _ lower, Nat.mul_lt_mul_of_pos_right upper (Nat.two_pow_pos _)⟩
    have scaled : ((rank - shift * 2 ^ 52) * 2 ^ shift).log2 - 52 = shift := by omega
    rw [scaled, roundDiv_mul_self _ (Nat.two_pow_pos shift)]
    omega

end Binary64
end PayGraph
