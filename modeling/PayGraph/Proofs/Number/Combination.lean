import PayGraph.Proofs.Arithmetic
import PayGraph.Proofs.Number.Range

/-!
# Combining finite numbers

Two numbers meet the limit of double precision in one of two ways.  A whole number that is too large
to be rounded, or a quotient of whole numbers that is, gives no number at all: they refuse to
combine.  But two double-precision values always combine, and a result that is too large becomes
infinite: they overrun.  Finite numbers have a finite result if and only if they do not overrun.
-/

namespace PayGraph
namespace Number

/-- The number is not infinite and not not-a-number. -/
def IsFinite : Number → Prop
  | .real value => value.IsFinite
  | .boolean _ | .integer _ => True

/-- A whole number that is too large to be rounded to double precision. -/
def Oversized (number : Number) : Prop :=
  ∃ whole : Int, number.whole? = some whole ∧ Binary64.limit ≤ |(whole : ℚ)|

variable {number : Number}

theorem IsWhole.isFinite (whole : number.IsWhole) : number.IsFinite := by
  cases number with
  | boolean | integer => trivial
  | real value => exact absurd whole (not_isWhole_real value)

theorem toBinary64?_of_whole {whole : Int} (held : number.whole? = some whole) :
    number.toBinary64? = Binary64.ofInt? whole := by
  cases number <;> cases held <;> rfl

theorem toBinary64?_eq_none_iff : number.toBinary64? = none ↔ number.Oversized := by
  cases held : number.whole? with
  | some whole =>
      rw [toBinary64?_of_whole held, Binary64.ofInt?_eq_none_iff]
      constructor
      · exact fun large => ⟨whole, held, large⟩
      · rintro ⟨other, same, large⟩
        rw [held] at same
        cases same
        exact large
  | none =>
      cases number with
      | boolean | integer => cases held
      | real value =>
          refine iff_of_false nofun ?_
          rintro ⟨_, same, _⟩
          cases same

theorem isFinite_iff_of_toBinary64? {real : Binary64} (rounded : number.toBinary64? = some real) :
    number.IsFinite ↔ real.IsFinite := by
  cases number with
  | boolean | integer => exact iff_of_true trivial (Binary64.isFinite_of_ofRatio? rounded)
  | real value =>
      cases rounded
      exact Iff.rfl

theorem equal_zero_of_extent? (extent : number.extent? = some (.at 0)) :
    number.equal .zero = true := by
  have zero_extent : Number.zero.extent? = some (.at 0) := by
    rw [zero, extent?, Int.zero_mul]
  rw [equal, relate, extent, zero_extent]
  rfl

theorem hundred_ne_zero : (integer 100).equal .zero = false := by
  decide +kernel

theorem whole_ne_zero {whole : Int} (nonzero : number.equal .zero = false)
    (held : number.whole? = some whole) : whole ≠ 0 := by
  rintro rfl
  have extent : number.extent? = some (.at 0) := by
    cases number with
    | boolean value =>
        cases value with
        | false => rw [extent?, if_neg Bool.false_ne_true]
        | true => exact absurd held (by decide)
    | integer value =>
        cases held
        rw [extent?, Int.zero_mul]
    | real value => cases held
  rw [equal_zero_of_extent? extent] at nonzero
  cases nonzero

theorem toRat_ne_zero {real : Binary64} (nonzero : number.equal .zero = false)
    (rounded : number.toBinary64? = some real) (finite : real.IsFinite) : real.toRat ≠ 0 := by
  cases held : number.whole? with
  | some whole =>
      rw [toBinary64?_of_whole held] at rounded
      exact Binary64.toRat_ne_zero_of_ofInt? (whole_ne_zero nonzero held) rounded
  | none =>
      cases number with
      | boolean | integer => cases held
      | real value =>
          cases rounded
          obtain ⟨negative, rank, rfl⟩ := finite
          rw [ne_eq, Binary64.toRat_finite_eq_zero_iff]
          intro first
          have no_units : Binary64.signedUnits negative rank = 0 := by
            rw [← Int.natAbs_eq_zero, Binary64.natAbs_signedUnits, Binary64.units_eq_zero_iff]
            exact first
          have extent : (Number.real (.finite negative rank)).extent? = some (.at 0) := by
            rw [extent?, no_units]
          rw [equal_zero_of_extent? extent] at nonzero
          cases nonzero

end Number

/-- An operation of arithmetic on two numbers. -/
inductive Arithmetic where
  | sum
  | difference
  | product
  | quotient
  deriving DecidableEq, Repr

namespace Arithmetic

/-- The operation on numbers; it may come to nothing. -/
def compute? : Arithmetic → Number → Number → Option Number
  | .sum => Number.add?
  | .difference => Number.sub?
  | .product => Number.mul?
  | .quotient => Number.div?

/-- The exact operation. -/
def exact : Arithmetic → ℚ → ℚ → ℚ
  | .sum => (· + ·)
  | .difference => (· - ·)
  | .product => (· * ·)
  | .quotient => (· / ·)

/-- The operation in double precision. -/
def rounded : Arithmetic → Binary64 → Binary64 → Binary64
  | .sum => Binary64.add
  | .difference => Binary64.sub
  | .product => Binary64.mul
  | .quotient => Binary64.div

/-- The operation is defined on two numbers: the divisor of a quotient is not zero. -/
def Defined (arithmetic : Arithmetic) (divisor : Number) : Prop :=
  arithmetic = .quotient → divisor.equal .zero = false

/-- Two finite numbers, not both whole, whose double-precision result is too large. -/
def Overruns (arithmetic : Arithmetic) (left right : Number) : Prop :=
  ¬(left.IsWhole ∧ right.IsWhole) ∧ ∃ leftReal rightReal,
    left.toBinary64? = some leftReal ∧ right.toBinary64? = some rightReal ∧
      leftReal.IsFinite ∧ rightReal.IsFinite ∧
      Binary64.limit ≤ |arithmetic.exact leftReal.toRat rightReal.toRat|

/-- Two numbers that do not combine: a whole number that is too large meets one in double precision,
or the quotient of two whole numbers is too large. -/
def Refuses (arithmetic : Arithmetic) (left right : Number) : Prop :=
  ¬(left.IsWhole ∧ right.IsWhole) ∧ (left.Oversized ∨ right.Oversized) ∨
    arithmetic = .quotient ∧ ∃ dividend divisor : Int,
      left.whole? = some dividend ∧ right.whole? = some divisor ∧
        Binary64.limit ≤ |(dividend / divisor : ℚ)|

variable {arithmetic : Arithmetic} {left right value : Number}

theorem exists_integer_of_whole (left_whole : left.IsWhole) (right_whole : right.IsWhole)
    (undivided : arithmetic ≠ .quotient) :
    ∃ whole, arithmetic.compute? left right = some (.integer whole) := by
  obtain ⟨leftWhole, left_held⟩ := left_whole
  obtain ⟨rightWhole, right_held⟩ := right_whole
  cases arithmetic with
  | sum =>
      refine ⟨leftWhole + rightWhole, ?_⟩
      simp only [compute?, Number.add?, Number.combine?, left_held, right_held]
  | difference =>
      refine ⟨leftWhole - rightWhole, ?_⟩
      simp only [compute?, Number.sub?, Number.combine?, left_held, right_held]
  | product =>
      refine ⟨leftWhole * rightWhole, ?_⟩
      simp only [compute?, Number.mul?, Number.combine?, left_held, right_held]
  | quotient => exact absurd rfl undivided

theorem compute?_quotient_of_whole {dividend divisor : Int}
    (left_whole : left.whole? = some dividend) (right_whole : right.whole? = some divisor) :
    quotient.compute? left right = (Binary64.ofQuotient? dividend divisor).map .real := by
  simp only [compute?, Number.div?, left_whole, right_whole]

/-- Two numbers that are not both whole combine in double precision. -/
theorem compute?_of_mixed (mixed : ¬(left.IsWhole ∧ right.IsWhole)) :
    arithmetic.compute? left right =
      left.toBinary64?.bind fun leftReal => right.toBinary64?.map fun rightReal =>
        .real (arithmetic.rounded leftReal rightReal) := by
  cases left_whole : left.whole? with
  | none =>
      cases arithmetic <;>
        simp only [compute?, rounded, Number.add?, Number.sub?, Number.mul?, Number.div?,
          Number.combine?, left_whole] <;>
        cases left.toBinary64? <;> cases right.toBinary64? <;> rfl
  | some leftWhole =>
      cases right_whole : right.whole? with
      | some rightWhole => exact absurd ⟨⟨_, left_whole⟩, ⟨_, right_whole⟩⟩ mixed
      | none =>
          cases arithmetic <;>
            simp only [compute?, rounded, Number.add?, Number.sub?, Number.mul?, Number.div?,
              Number.combine?, left_whole, right_whole] <;>
            cases left.toBinary64? <;> cases right.toBinary64? <;> rfl

/-- An operation comes to nothing if and only if it refuses its numbers. -/
theorem compute?_eq_none_iff (defined : arithmetic.Defined right) :
    arithmetic.compute? left right = none ↔ arithmetic.Refuses left right := by
  by_cases whole : left.IsWhole ∧ right.IsWhole
  · have ⟨⟨leftWhole, left_held⟩, rightWhole, right_held⟩ := whole
    have refuses_iff : arithmetic.Refuses left right ↔ arithmetic = .quotient ∧
        Binary64.limit ≤ |(leftWhole / rightWhole : ℚ)| := by
      simp [Refuses, whole, left_held, right_held]
    rw [refuses_iff]
    by_cases divided : arithmetic = .quotient
    · have nonzero := Number.whole_ne_zero (defined divided) right_held
      rw [divided, compute?_quotient_of_whole left_held right_held, Option.map_eq_none_iff,
        Binary64.ofQuotient?_eq_none_iff leftWhole nonzero]
      simp
    · obtain ⟨result, computed⟩ := exists_integer_of_whole whole.1 whole.2 divided
      simp [computed, divided]
  · have unquotable (dividend divisor : Int) :
        ¬(left.whole? = some dividend ∧ right.whole? = some divisor) := by
      rintro ⟨left_held, right_held⟩
      exact whole ⟨⟨_, left_held⟩, ⟨_, right_held⟩⟩
    have refuses_iff : arithmetic.Refuses left right ↔ left.Oversized ∨ right.Oversized := by
      rw [Refuses]
      constructor
      · rintro (⟨_, large⟩ | ⟨_, dividend, divisor, left_held, right_held, _⟩)
        · exact large
        · exact absurd ⟨left_held, right_held⟩ (unquotable dividend divisor)
      · exact fun large => Or.inl ⟨whole, large⟩
    rw [refuses_iff, compute?_of_mixed whole, ← Number.toBinary64?_eq_none_iff,
      ← Number.toBinary64?_eq_none_iff]
    cases left.toBinary64? <;> cases right.toBinary64? <;> simp

/-- In double precision, finite operands have a finite result unless it is too large. -/
theorem isFinite_rounded_iff {left right : Binary64} (left_finite : left.IsFinite)
    (right_finite : right.IsFinite) (nonzero : arithmetic = .quotient → right.toRat ≠ 0) :
    (arithmetic.rounded left right).IsFinite ↔
      |arithmetic.exact left.toRat right.toRat| < Binary64.limit := by
  cases arithmetic with
  | sum => exact Binary64.isFinite_add_iff left_finite right_finite
  | difference => exact Binary64.isFinite_sub_iff left_finite right_finite
  | product => exact Binary64.isFinite_mul_iff left_finite right_finite
  | quotient => exact Binary64.isFinite_div_iff left_finite right_finite (nonzero rfl)

variable (arithmetic)

/-- Finite numbers combine into a finite one if and only if they do not overrun. -/
theorem isFinite_iff_of_finite (defined : arithmetic.Defined right)
    (computed : arithmetic.compute? left right = some value) (left_finite : left.IsFinite)
    (right_finite : right.IsFinite) : value.IsFinite ↔ ¬arithmetic.Overruns left right := by
  by_cases whole : left.IsWhole ∧ right.IsWhole
  · refine iff_of_true ?_ fun overruns => overruns.1 whole
    have ⟨⟨leftWhole, left_held⟩, rightWhole, right_held⟩ := whole
    by_cases divided : arithmetic = .quotient
    · rw [divided, compute?_quotient_of_whole left_held right_held] at computed
      obtain ⟨real, quotient_eq, rfl⟩ := Option.map_eq_some_iff.mp computed
      exact Binary64.isFinite_of_ofRatio? quotient_eq
    · obtain ⟨result, result_eq⟩ := exists_integer_of_whole whole.1 whole.2 divided
      rw [result_eq] at computed
      cases computed
      trivial
  · rw [compute?_of_mixed whole] at computed
    obtain ⟨leftReal, left_rounded, mapped⟩ := Option.bind_eq_some_iff.mp computed
    obtain ⟨rightReal, right_rounded, rfl⟩ := Option.map_eq_some_iff.mp mapped
    rw [Number.isFinite_iff_of_toBinary64? left_rounded] at left_finite
    rw [Number.isFinite_iff_of_toBinary64? right_rounded] at right_finite
    have nonzero (divided : arithmetic = .quotient) : rightReal.toRat ≠ 0 :=
      Number.toRat_ne_zero (defined divided) right_rounded right_finite
    have overruns_iff : arithmetic.Overruns left right ↔
        Binary64.limit ≤ |arithmetic.exact leftReal.toRat rightReal.toRat| := by
      simp [Overruns, whole, left_rounded, right_rounded, left_finite, right_finite]
    rw [overruns_iff, not_le]
    exact isFinite_rounded_iff left_finite right_finite nonzero

/-- A finite result comes from a finite left operand and, unless it is a quotient, a finite right
one. -/
theorem isFinite_operands (computed : arithmetic.compute? left right = some value)
    (finite : value.IsFinite) :
    left.IsFinite ∧ (arithmetic ≠ .quotient → right.IsFinite) := by
  by_cases whole : left.IsWhole ∧ right.IsWhole
  · exact ⟨whole.1.isFinite, fun _ => whole.2.isFinite⟩
  · rw [compute?_of_mixed whole] at computed
    obtain ⟨leftReal, left_rounded, mapped⟩ := Option.bind_eq_some_iff.mp computed
    obtain ⟨rightReal, right_rounded, rfl⟩ := Option.map_eq_some_iff.mp mapped
    rw [Number.isFinite_iff_of_toBinary64? left_rounded,
      Number.isFinite_iff_of_toBinary64? right_rounded]
    cases arithmetic with
    | sum =>
        obtain ⟨left_finite, right_finite⟩ := Binary64.isFinite_of_add finite
        exact ⟨left_finite, fun _ => right_finite⟩
    | difference =>
        obtain ⟨left_finite, right_finite⟩ := Binary64.isFinite_of_sub finite
        exact ⟨left_finite, fun _ => right_finite⟩
    | product =>
        obtain ⟨left_finite, right_finite⟩ := Binary64.isFinite_of_mul finite
        exact ⟨left_finite, fun _ => right_finite⟩
    | quotient => exact ⟨Binary64.isFinite_of_div finite, fun undivided => absurd rfl undivided⟩

/-- A result is finite if and only if it is one of finite numbers that do not overrun, given that no
divisor is infinite. -/
theorem isFinite_iff (defined : arithmetic.Defined right)
    (computed : arithmetic.compute? left right = some value)
    (bounded : arithmetic = .quotient → right.IsFinite) :
    value.IsFinite ↔ left.IsFinite ∧ right.IsFinite ∧ ¬arithmetic.Overruns left right := by
  constructor
  · intro finite
    obtain ⟨left_finite, undivided_finite⟩ := arithmetic.isFinite_operands computed finite
    have right_finite : right.IsFinite := by
      by_cases divided : arithmetic = .quotient
      · exact bounded divided
      · exact undivided_finite divided
    refine ⟨left_finite, right_finite, ?_⟩
    exact (arithmetic.isFinite_iff_of_finite defined computed left_finite right_finite).mp finite
  · rintro ⟨left_finite, right_finite, safe⟩
    exact (arithmetic.isFinite_iff_of_finite defined computed left_finite right_finite).mpr safe

end Arithmetic
end PayGraph
