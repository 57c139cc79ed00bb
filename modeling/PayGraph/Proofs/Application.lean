import Mathlib
import PayGraph.Proofs.Overrun
import PayGraph.Proofs.Shortage

/-!
# How the application of an operator fails

Applying an operator fails for want of operands, for a relation, for a divisor that is zero, or for
numbers that do not combine, and the first of these that holds is the failure.  There is no other
way: whatever is divided is divided by a number other than zero.
-/

namespace PayGraph

namespace Number

/-- Zero of some kind; the sign of a double-precision zero does not matter. -/
inductive IsZero : Number → Prop
  | boolean : IsZero (.boolean false)
  | integer : IsZero (.integer 0)
  | real (negative : Bool) : IsZero (.real (.finite negative 0))

theorem equal_zero_iff_extent? {number : Number} :
    number.equal .zero = true ↔ number.extent? = some (.at 0) := by
  refine ⟨fun same => ?_, equal_zero_of_extent?⟩
  rw [equal, relate, zero, extent?, Int.zero_mul] at same
  cases extent : number.extent? with
  | none => simp [extent] at same
  | some found => simpa [extent] using same

theorem equal_zero_iff {number : Number} : number.equal .zero = true ↔ number.IsZero := by
  have one_ne : (Binary64.unitsPerOne : Int) ≠ 0 :=
    Int.natCast_ne_zero.mpr Binary64.unitsPerOne_pos.ne'
  rw [equal_zero_iff_extent?]
  constructor
  · intro extent
    cases number with
    | boolean value =>
        cases value with
        | false => exact .boolean
        | true =>
            rw [extent?, if_pos rfl, Option.some.injEq, Extent.at.injEq] at extent
            exact absurd extent one_ne
    | integer value =>
        rw [extent?, Option.some.injEq, Extent.at.injEq, Int.mul_eq_zero,
          or_iff_left one_ne] at extent
        rw [extent]
        exact .integer
    | real value =>
        cases value with
        | nan => cases extent
        | infinite negative => cases negative <;> cases extent
        | finite negative rank =>
            rw [extent?, Option.some.injEq, Extent.at.injEq, ← Int.natAbs_eq_zero,
              Binary64.natAbs_signedUnits, Binary64.units_eq_zero_iff] at extent
            rw [show rank = 0 from Fin.ext extent]
            exact .real negative
  · intro zero
    cases zero with
    | boolean => rw [extent?, if_neg Bool.false_ne_true]
    | integer => rw [extent?, Int.zero_mul]
    | real negative =>
        have no_units : Binary64.signedUnits negative (0 : Fin finiteRanks) = 0 := by
          rw [← Int.natAbs_eq_zero, Binary64.natAbs_signedUnits, Binary64.units_eq_zero_iff]
          rfl
        rw [extent?, no_units]

end Number

namespace Operator

/-- How applying an operator of a node to operands fails. -/
inductive Fails (node : String) : Operator → List Number → Failure → Prop
  | lacking {operator : Operator} {operands : List Number} {required : Nat} :
      operator.Lacks required operands.length →
      Fails node operator operands
        (.insufficientOperands node operator.word required operands.length)
  | relational {operator : Operator} {operands : List Number} :
      operands ≠ [] →
      operator.isRelational = true →
      Fails node operator operands (.unsupported node operator.word)
  | zeroDivisor {dividend divisor : Number} {rest : List Number} :
      divisor.IsZero →
      Fails node .division (dividend :: divisor :: rest) (.divisionByZero node)
  | overflow {operator : Operator} {operands : List Number} :
      operator.Refuses operands →
      Fails node operator operands (.overflow node)

variable {node : String} {operator : Operator} {operands : List Number} {failure : Failure}

theorem lacks_iff {required given : Nat} :
    operator.Lacks required given ↔ given = 0 ∧ required = 1 ∨
      (operator = .division ∨ operator = .percentage) ∧ given = 1 ∧ required = 2 := by
  constructor
  · rintro (_ | _ | _)
    · exact Or.inl ⟨rfl, rfl⟩
    · exact Or.inr ⟨Or.inl rfl, rfl, rfl⟩
    · exact Or.inr ⟨Or.inr rfl, rfl, rfl⟩
  · rintro (⟨rfl, rfl⟩ | ⟨rfl | rfl, rfl, rfl⟩)
    · exact .all operator
    · exact .divisor
    · exact .rate

theorem fails_of_apply (applied : operator.apply node operands = .error failure) :
    operator.Fails node operands failure := by
  have overflows {computed : Option Number}
      (same : operator.apply node operands = orOverflow node computed) :
      operator.Fails node operands failure := by
    rw [same] at applied
    obtain rfl := overflow_of_orOverflow_error applied
    exact .overflow (apply_eq_overflow_iff.mp (same.trans applied))
  cases operands with
  | nil =>
      cases applied
      exact .lacking (.all operator)
  | cons first rest =>
      cases operator with
      | sum | subtraction | multiplication => exact overflows rfl
      | division =>
          cases rest with
          | nil =>
              cases applied
              exact .lacking .divisor
          | cons divisor rest =>
              by_cases zero : divisor.equal .zero
              · simp only [apply, if_pos zero] at applied
                cases applied
                exact .zeroDivisor (Number.equal_zero_iff.mp zero)
              · have divides : division.apply node (first :: divisor :: rest) =
                    orOverflow node (first.div? divisor) := by
                  simp only [apply, if_neg zero]
                exact overflows divides
      | percentage =>
          cases rest with
          | nil =>
              cases applied
              exact .lacking .rate
          | cons rate rest => exact overflows rfl
      | greaterThan | lessThan | equal | greaterEqual | lessEqual =>
          cases applied
          exact .relational (List.cons_ne_nil first rest) rfl

theorem apply_of_fails (fails : operator.Fails node operands failure) :
    operator.apply node operands = .error failure := by
  cases fails with
  | lacking lacks =>
      rcases lacks_iff.mp lacks with ⟨none_given, rfl⟩ | ⟨paired, one_given, rfl⟩
      · obtain rfl := List.length_eq_zero_iff.mp none_given
        cases operator <;> rfl
      · obtain ⟨operand, rfl⟩ := List.length_eq_one_iff.mp one_given
        rcases paired with rfl | rfl <;> rfl
  | relational nonempty relational =>
      obtain ⟨first, rest, rfl⟩ := List.exists_cons_of_ne_nil nonempty
      cases operator <;> cases relational <;> rfl
  | zeroDivisor zero => simp only [apply, if_pos (Number.equal_zero_iff.mpr zero)]
  | overflow refuses => exact apply_eq_overflow_iff.mpr refuses

theorem apply_eq_error_iff :
    operator.apply node operands = .error failure ↔ operator.Fails node operands failure :=
  ⟨fails_of_apply, apply_of_fails⟩

section Conditions

variable {blamed : String}

theorem fails_insufficientOperands_iff {word : String} {required given : Nat} :
    operator.Fails node operands (.insufficientOperands blamed word required given) ↔
      blamed = node ∧ word = operator.word ∧ given = operands.length ∧
        operator.Lacks required operands.length := by
  constructor
  · rintro (lacks | _ | _ | _)
    exact ⟨rfl, rfl, rfl, lacks⟩
  · rintro ⟨rfl, rfl, rfl, lacks⟩
    exact .lacking lacks

theorem fails_unsupported_iff {tag : String} :
    operator.Fails node operands (.unsupported blamed tag) ↔
      blamed = node ∧ tag = operator.word ∧ operands ≠ [] ∧ operator.isRelational = true := by
  constructor
  · rintro (_ | ⟨nonempty, relational⟩ | _ | _)
    exact ⟨rfl, rfl, nonempty, relational⟩
  · rintro ⟨rfl, rfl, nonempty, relational⟩
    exact .relational nonempty relational

theorem fails_divisionByZero_iff :
    operator.Fails node operands (.divisionByZero blamed) ↔
      blamed = node ∧ operator = .division ∧
        ∃ divisor, operands[1]? = some divisor ∧ divisor.IsZero := by
  constructor
  · rintro (_ | _ | zero | _)
    exact ⟨rfl, rfl, _, rfl, zero⟩
  · rintro ⟨rfl, rfl, divisor, second, zero⟩
    rcases operands with _ | ⟨dividend, _ | ⟨other, rest⟩⟩
    · cases second
    · cases second
    · cases second
      exact .zeroDivisor zero

theorem fails_overflow_iff :
    operator.Fails node operands (.overflow blamed) ↔
      blamed = node ∧ operator.Refuses operands := by
  constructor
  · rintro (_ | _ | _ | refuses)
    exact ⟨rfl, refuses⟩
  · rintro ⟨rfl, refuses⟩
    exact .overflow refuses

end Conditions

theorem returns_or_fails (node : String) (operator : Operator) (operands : List Number) :
    (∃ value, operator.apply node operands = .ok value) ∨
      (∃ required, operator.Fails node operands
        (.insufficientOperands node operator.word required operands.length)) ∨
      operator.Fails node operands (.unsupported node operator.word) ∨
      operator.Fails node operands (.divisionByZero node) ∨
      operator.Fails node operands (.overflow node) := by
  cases applied : operator.apply node operands with
  | ok value => exact Or.inl ⟨value, rfl⟩
  | error failure =>
      right
      have fails := fails_of_apply applied
      cases fails with
      | lacking lacks => exact Or.inl ⟨_, .lacking lacks⟩
      | relational nonempty relational => exact Or.inr (Or.inl (.relational nonempty relational))
      | zeroDivisor zero => exact Or.inr (Or.inr (Or.inl (.zeroDivisor zero)))
      | overflow refuses => exact Or.inr (Or.inr (Or.inr (.overflow refuses)))

theorem apply_take_two (node : String) (operands : List Number)
    (paired : operator = .division ∨ operator = .percentage) :
    operator.apply node (operands.take 2) = operator.apply node operands := by
  rcases paired with rfl | rfl <;> rcases operands with _ | ⟨first, _ | ⟨second, rest⟩⟩ <;> rfl

/-- Each failure of an operator has its exact condition, of which an earlier one here rules out the
later ones.  Otherwise there is a value.  A division and a percentage come to what they come to on
their first two operands. -/
theorem apply_fails_exactly (node : String) (operator : Operator) (operands : List Number) :
    (∀ blamed word required given,
        operator.apply node operands =
            .error (.insufficientOperands blamed word required given) ↔
          blamed = node ∧ word = operator.word ∧ given = operands.length ∧
            (operands = [] ∧ required = 1 ∨
              (operator = .division ∨ operator = .percentage) ∧ operands.length = 1 ∧
                required = 2)) ∧
      (∀ blamed tag, operator.apply node operands = .error (.unsupported blamed tag) ↔
        blamed = node ∧ tag = operator.word ∧ operands ≠ [] ∧ operator.isRelational = true) ∧
      (∀ blamed, operator.apply node operands = .error (.divisionByZero blamed) ↔
        blamed = node ∧ operator = .division ∧
          ∃ divisor, operands[1]? = some divisor ∧ divisor.IsZero) ∧
      (∀ blamed, operator.apply node operands = .error (.overflow blamed) ↔
        blamed = node ∧ operator.Refuses operands) ∧
      ((∃ value, operator.apply node operands = .ok value) ∨
        (∃ required, operator.apply node operands =
          .error (.insufficientOperands node operator.word required operands.length)) ∨
        operator.apply node operands = .error (.unsupported node operator.word) ∨
        operator.apply node operands = .error (.divisionByZero node) ∨
        operator.apply node operands = .error (.overflow node)) ∧
      (∀ arithmetic left right, operator.Performs operands arithmetic left right →
        arithmetic.Defined right) ∧
      (operator = .division ∨ operator = .percentage →
        operator.apply node operands = operator.apply node (operands.take 2)) := by
  simp only [apply_eq_error_iff]
  refine ⟨fun blamed word required given => ?_, fun blamed tag => fails_unsupported_iff,
    fun blamed => fails_divisionByZero_iff, fun blamed => fails_overflow_iff,
    returns_or_fails node operator operands, fun _ _ _ => Performs.defined,
    fun paired => (apply_take_two node operands paired).symm⟩
  rw [fails_insufficientOperands_iff, lacks_iff, List.length_eq_zero_iff]

end Operator
end PayGraph
