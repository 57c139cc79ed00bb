import PayGraph.Number.Decimal
import PayGraph.Proofs.Number.Exact

/-!
# Shortest decimals

The shortest decimal of a double-precision value reads back to it, and so does the same number
written with further zeros.  Reading only depends on the ratio that a decimal stands for, as long as
no power of ten decides the answer alone; the decimal with every digit of a value is never so long
or so short that one does.
-/

namespace PayGraph
namespace Decimal

/-- Numerator of the ratio of units that a decimal stands for. -/
def numerator (decimal : Decimal) : Nat :=
  decimal.significand * 10 ^ decimal.exponent.toNat * Binary64.unitsPerOne

/-- Denominator of the ratio of units that a decimal stands for. -/
def denominator (decimal : Decimal) : Nat :=
  10 ^ (-decimal.exponent).toNat

theorem denominator_pos (decimal : Decimal) : 0 < decimal.denominator :=
  Nat.pow_pos (by decide)

/-- No power of ten decides alone what a decimal reads to. -/
structure Moderate (decimal : Decimal) : Prop where
  significand_ne : decimal.significand ≠ 0
  exponent_le : decimal.exponent ≤ 310
  le_exponent : -(400 + decimal.significand.log2 : Int) ≤ decimal.exponent

theorem Moderate.rank?_eq {decimal : Decimal} (moderate : decimal.Moderate) :
    decimal.rank? =
      if Binary64.nearestRank decimal.numerator decimal.denominator < finiteRanks then
        some (Binary64.nearestRank decimal.numerator decimal.denominator)
      else none := by
  rw [rank?, if_neg moderate.significand_ne, if_neg (Int.not_lt.mpr moderate.exponent_le),
    if_neg (Int.not_lt.mpr moderate.le_exponent), numerator, denominator]
  rcases Int.le_total 0 decimal.exponent with large | small
  · rw [if_pos large, Int.toNat_of_nonpos (Int.neg_nonpos_of_nonneg large), Nat.pow_zero]
    rfl
  · rcases Int.lt_or_eq_of_le small with negative | zero
    · rw [if_neg (Int.not_le.mpr negative), Int.toNat_of_nonpos small, Nat.pow_zero, Nat.mul_one]
      rfl
    · rw [zero, if_pos (Int.le_refl 0)]
      rfl

theorem moderate_of_rank? {decimal : Decimal} {rank : Nat} (read : decimal.rank? = some rank)
    (nonzero : rank ≠ 0) : decimal.Moderate := by
  rw [rank?] at read
  split at read
  · cases read
    exact absurd rfl nonzero
  · rename_i significand_ne
    split at read
    · cases read
    · rename_i fits
      split at read
      · cases read
        exact absurd rfl nonzero
      · rename_i close
        exact ⟨significand_ne, Int.not_lt.mp fits, Int.not_lt.mp close⟩

/-- A decimal of a positive rank reads to it if its ratio has that rank. -/
theorem rank?_eq_some_iff {decimal : Decimal} {rank : Nat} (nonzero : rank ≠ 0) :
    decimal.rank? = some rank ↔ decimal.Moderate ∧ rank < finiteRanks ∧
      Binary64.nearestRank decimal.numerator decimal.denominator = rank := by
  constructor
  · intro read
    have moderate := moderate_of_rank? read nonzero
    rw [moderate.rank?_eq] at read
    split at read
    · rename_i bounded
      cases read
      exact ⟨moderate, bounded, rfl⟩
    · cases read
  · rintro ⟨moderate, bounded, nearest⟩
    rw [moderate.rank?_eq, nearest, if_pos bounded]

/-- The same number, written with some zeros at the end of its digits. -/
def pad (decimal : Decimal) (zeros : Nat) : Decimal :=
  ⟨decimal.significand * 10 ^ zeros, decimal.exponent - zeros⟩

theorem Moderate.pad {decimal : Decimal} (moderate : decimal.Moderate) (zeros : Nat) :
    (decimal.pad zeros).Moderate := by
  obtain ⟨significand_ne, exponent_le, le_exponent⟩ := moderate
  have padded_ne : decimal.significand * 10 ^ zeros ≠ 0 :=
    Nat.mul_ne_zero significand_ne (Nat.pow_pos (by decide)).ne'
  have longer : decimal.significand.log2 + zeros ≤ (decimal.significand * 10 ^ zeros).log2 := by
    rw [Nat.le_log2 padded_ne, Nat.pow_add]
    exact Nat.mul_le_mul (Nat.log2_self_le significand_ne) (Nat.pow_le_pow_left (by decide) zeros)
  refine ⟨padded_ne, ?_, ?_⟩
  · dsimp only [Decimal.pad]
    omega
  · dsimp only [Decimal.pad]
    omega

theorem rank?_pad {decimal : Decimal} {rank : Nat} (read : decimal.rank? = some rank)
    (nonzero : rank ≠ 0) (zeros : Nat) : (decimal.pad zeros).rank? = some rank := by
  rw [rank?_eq_some_iff nonzero] at read ⊢
  obtain ⟨moderate, bounded, nearest⟩ := read
  refine ⟨moderate.pad zeros, bounded, ?_⟩
  rw [← nearest]
  apply Binary64.nearestRank_congr (denominator_pos _) (denominator_pos _)
  have powers : zeros + (decimal.exponent - zeros).toNat + (-decimal.exponent).toNat =
      decimal.exponent.toNat + (-(decimal.exponent - zeros)).toNat := by omega
  calc
    (decimal.pad zeros).numerator * decimal.denominator =
        decimal.significand * Binary64.unitsPerOne *
          10 ^ (zeros + (decimal.exponent - zeros).toNat + (-decimal.exponent).toNat) := by
      rw [numerator, denominator, Decimal.pad, Nat.pow_add, Nat.pow_add]
      ring
    _ = decimal.numerator * (decimal.pad zeros).denominator := by
      rw [powers, numerator, denominator, Decimal.pad, Nat.pow_add]
      ring

theorem exists_pad_trim (decimal : Decimal) : ∃ zeros, decimal.trim.pad zeros = decimal := by
  fun_induction trim decimal with
  | case1 decimal ends_in_zero induction =>
      obtain ⟨zeros, padded⟩ := induction
      refine ⟨zeros + 1, ?_⟩
      have significand_eq := congrArg Decimal.significand padded
      have exponent_eq := congrArg Decimal.exponent padded
      simp only [Decimal.pad] at significand_eq exponent_eq
      have whole := Nat.div_mul_cancel (Nat.dvd_of_mod_eq_zero ends_in_zero.1)
      rw [Decimal.pad, Nat.pow_succ, ← Nat.mul_assoc, significand_eq, whole, Nat.cast_succ,
        ← Int.sub_sub, exponent_eq, Int.add_sub_cancel]
  | case2 decimal trimmed => exact ⟨0, by simp [Decimal.pad]⟩

theorem unitsPerOne_eq : Binary64.unitsPerOne = 2 ^ 1074 := by
  delta Binary64.unitsPerOne
  generalize 1074 = places
  rfl

theorem units_lt {rank : Nat} (bounded : rank < finiteRanks) :
    Binary64.units rank < 2 ^ 1024 * 2 ^ 1074 := by
  have nearest : Binary64.nearestRank (Binary64.units rank) 1 < (2044 + 3) * 2 ^ 52 := by
    rw [Binary64.nearestRank_units]
    exact bounded
  have below := (Binary64.nearestRank_lt_iff _ 2044 Nat.one_pos).mp nearest
  rw [Nat.mul_one] at below
  calc
    Binary64.units rank < (2 ^ 54 - 1) * 2 ^ 2044 := below
    _ ≤ 2 ^ 54 * 2 ^ 2044 := Nat.mul_le_mul_right _ (Nat.sub_le _ _)
    _ ≤ 2 ^ 2098 := Binary64.mul_two_pow_le (by decide)
    _ ≤ 2 ^ 1024 * 2 ^ 1074 := Binary64.two_pow_le_mul (by decide)

theorem moderate_of_units {decimal : Decimal} {units : Nat} (positive : 0 < units)
    (bounded : units < 2 ^ 1024 * 2 ^ 1074)
    (same : decimal.numerator = units * decimal.denominator) : decimal.Moderate := by
  have significand_ne : decimal.significand ≠ 0 := by
    intro zero
    rw [numerator, zero, Nat.zero_mul, Nat.zero_mul] at same
    exact (Nat.mul_pos positive decimal.denominator_pos).ne same
  rw [numerator, denominator, unitsPerOne_eq] at same
  refine ⟨significand_ne, ?_, ?_⟩
  -- with a large exponent the decimal would lie beyond all finite values
  · by_contra large
    obtain ⟨further, exponent_eq⟩ : ∃ further : Nat, decimal.exponent = 311 + further :=
      ⟨(decimal.exponent - 311).toNat, by omega⟩
    have powers : decimal.exponent.toNat = 311 + further ∧ (-decimal.exponent).toNat = 0 := by omega
    rw [powers.1, powers.2, Nat.pow_zero, Nat.mul_one] at same
    have beyond : 2 ^ 1024 ≤ decimal.significand * 10 ^ (311 + further) := by
      calc
        2 ^ 1024 ≤ 10 ^ 311 := by decide +kernel
        _ ≤ 10 ^ (311 + further) := Nat.pow_le_pow_right (by decide) (Nat.le_add_right _ _)
        _ ≤ decimal.significand * 10 ^ (311 + further) :=
          Nat.le_mul_of_pos_left _ (Nat.pos_of_ne_zero significand_ne)
    have too_large := Nat.mul_le_mul_right (2 ^ 1074) beyond
    omega
  -- a positive value with many places takes a long significand
  · by_contra small
    obtain ⟨places, exponent_eq⟩ : ∃ places : Nat, decimal.exponent = -(400 + places : Int) :=
      ⟨(-decimal.exponent - 400).toNat, by omega⟩
    have powers : decimal.exponent.toNat = 0 ∧ (-decimal.exponent).toNat = 400 + places := by omega
    rw [powers.1, powers.2, Nat.pow_zero, Nat.mul_one, Nat.pow_add] at same
    have multiple (bound : Nat) : bound ≤ units * bound := Nat.le_mul_of_pos_left bound positive
    have enough : 2 ^ places * 2 ^ 1074 ≤ decimal.significand * 2 ^ 1074 := by
      calc
        2 ^ places * 2 ^ 1074 ≤ 10 ^ places * (2 ^ 3) ^ 400 := by
          rw [← Nat.pow_mul]
          exact Nat.mul_le_mul (Nat.pow_le_pow_left (by decide) places)
            (Nat.pow_le_pow_right (by decide) (by decide))
        _ ≤ 10 ^ places * 10 ^ 400 :=
          Nat.mul_le_mul_left _ (Nat.pow_le_pow_left (by decide) 400)
        _ = 10 ^ 400 * 10 ^ places := Nat.mul_comm _ _
        _ ≤ units * (10 ^ 400 * 10 ^ places) := multiple _
        _ = decimal.significand * 2 ^ 1074 := same.symm
    have long := Nat.le_of_mul_le_mul_right enough (Nat.two_pow_pos 1074)
    rw [← Nat.le_log2 significand_ne] at long
    omega

/-- The decimal with every digit of a finite positive value reads back to it. -/
theorem rank?_exact {rank : Nat} (nonzero : rank ≠ 0) (bounded : rank < finiteRanks) :
    (exact (Binary64.units rank)).rank? = some rank := by
  have positive : 0 < Binary64.units rank :=
    Nat.pos_of_ne_zero fun zero => nonzero ((Binary64.units_eq_zero_iff rank).mp zero)
  obtain ⟨zeros, padded⟩ := exists_pad_trim ⟨Binary64.units rank * Nat.pow 5 1074, -1074⟩
  rw [← exact] at padded
  generalize exact (Binary64.units rank) = decimal at padded
  have digits_eq : decimal.significand * 10 ^ zeros = Binary64.units rank * Nat.pow 5 1074 :=
    congrArg Decimal.significand padded
  rw [Nat.pow_eq] at digits_eq
  have place_eq : decimal.exponent - zeros = -1074 := congrArg Decimal.exponent padded
  have powers : decimal.exponent.toNat + 1074 = zeros + (-decimal.exponent).toNat := by omega
  have same : decimal.numerator = Binary64.units rank * decimal.denominator := by
    apply Nat.eq_of_mul_eq_mul_right (Nat.pow_pos (by decide : 0 < 10) : 0 < 10 ^ zeros)
    calc
      decimal.numerator * 10 ^ zeros =
          decimal.significand * 10 ^ zeros * 10 ^ decimal.exponent.toNat * 2 ^ 1074 := by
        rw [numerator, unitsPerOne_eq]
        ring
      _ = Binary64.units rank * 10 ^ (decimal.exponent.toNat + 1074) := by
        rw [digits_eq, Nat.pow_add, show (10 : Nat) = 5 * 2 from rfl, Nat.mul_pow _ _ 1074]
        ring
      _ = Binary64.units rank * decimal.denominator * 10 ^ zeros := by
        rw [powers, denominator, Nat.pow_add]
        ring
  rw [rank?_eq_some_iff nonzero]
  refine ⟨moderate_of_units positive (units_lt bounded) same, bounded, ?_⟩
  have nearest := Binary64.nearestRank_units rank
  rwa [Binary64.nearestRank_congr decimal.denominator_pos Nat.one_pos
    ((Nat.mul_one _).trans same)]

theorem rank?_of_search {rank remaining : Nat} {power : Int} {decimal : Decimal}
    (found : search rank power remaining = some decimal) : decimal.rank? = some rank := by
  induction remaining generalizing power with
  | zero => cases found
  | succ remaining induction =>
      rw [search] at found
      split at found
      · rename_i candidate hit
        cases found
        simpa using List.find?_some hit
      · exact induction found

theorem rank?_zero (exponent : Int) : (⟨0, exponent⟩ : Decimal).rank? = some 0 := by
  rw [rank?, if_pos rfl]

/-- The shortest decimal of a finite value reads back to it. -/
theorem rank?_shortest {rank : Nat} (bounded : rank < finiteRanks) :
    (shortest rank).rank? = some rank := by
  by_cases zero : rank = 0
  · rw [shortest, if_pos zero, zero, rank?_zero]
  · rw [shortest, if_neg zero]
    dsimp only
    cases found : search rank (leadingPower (Binary64.units rank)) 17 with
    | some decimal =>
        rw [Option.getD_some]
        exact rank?_of_search found
    | none =>
        rw [Option.getD_none]
        exact rank?_exact zero bounded

theorem toBinary64_eq {decimal : Decimal} {rank : Fin finiteRanks}
    (read : decimal.rank? = some rank.val) (negative : Bool) :
    decimal.toBinary64 negative = .finite negative rank := by
  rw [toBinary64, read]
  exact dif_pos rank.isLt

theorem toBinary64_pad_shortest (negative : Bool) (rank : Fin finiteRanks) (zeros : Nat) :
    ((shortest rank).pad zeros).toBinary64 negative = .finite negative rank := by
  have read : ((shortest rank).pad zeros).rank? = some rank.val := by
    by_cases zero : rank.val = 0
    · rw [zero, shortest, if_pos rfl, Decimal.pad, Nat.zero_mul, rank?_zero]
    · exact rank?_pad (rank?_shortest rank.isLt) zero zeros
  exact toBinary64_eq read negative

theorem eq_zero_of_significand_shortest {rank : Nat} (bounded : rank < finiteRanks)
    (zero : (shortest rank).significand = 0) : rank = 0 := by
  have read := rank?_shortest bounded
  rw [rank?, if_pos zero] at read
  exact (Option.some.inj read).symm

end Decimal
end PayGraph
