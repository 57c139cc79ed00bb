import PayGraph.Proofs.Number.Combination

/-!
# Operations that overrun

An operation is a sequence of steps, each of which combines two numbers.  It fails with an overflow
if and only if the numbers of a step refuse to combine; an operation of finite operands that has a
value has a finite one if and only if no step overruns.
-/

namespace PayGraph

section Folding

variable {Value : Type} {combine : Value → Value → Option Value}

/-- Folding values from a start combines a pair: the value folded so far and the next one. -/
inductive Combines (combine : Value → Value → Option Value) :
    Value → List Value → Value → Value → Prop
  | first {start next : Value} {rest : List Value} :
      Combines combine start (next :: rest) start next
  | later {start next folded left right : Value} {rest : List Value} :
      combine start next = some folded →
      Combines combine folded rest left right →
      Combines combine start (next :: rest) left right

theorem Combines.ne_nil {start left right : Value} {values : List Value}
    (pair : Combines combine start values left right) : values ≠ [] := by
  cases pair <;> exact List.cons_ne_nil _ _

theorem foldlM_eq_none_iff {values : List Value} {start : Value} :
    values.foldlM combine start = none ↔
      ∃ left right, Combines combine start values left right ∧ combine left right = none := by
  induction values generalizing start with
  | nil =>
      refine iff_of_false nofun ?_
      rintro ⟨_, _, pair, _⟩
      cases pair
  | cons next rest induction =>
      rw [List.foldlM_cons, Option.bind_eq_bind, Option.bind_eq_none_iff]
      constructor
      · intro stops
        cases combined : combine start next with
        | none => exact ⟨start, next, .first, combined⟩
        | some folded =>
            obtain ⟨left, right, pair, none_eq⟩ := induction.mp (stops folded combined)
            exact ⟨left, right, .later combined pair, none_eq⟩
      · rintro ⟨left, right, pair, none_eq⟩ folded combined
        cases pair with
        | first =>
            rw [none_eq] at combined
            cases combined
        | later again pair =>
            rw [again] at combined
            cases combined
            exact induction.mpr ⟨left, right, pair, none_eq⟩

/-- Suppose that a pair with a property gives a result with it unless the pair spoils it, and that
no other pair does.  Then folding keeps the property if and only if no pair spoils it. -/
theorem foldlM_holds_iff {holds : Value → Prop} {spoils : Value → Value → Prop}
    (step : ∀ left right value, combine left right = some value → holds left → holds right →
      (holds value ↔ ¬spoils left right))
    (both : ∀ left right value, combine left right = some value → holds value →
      holds left ∧ holds right)
    {values : List Value} {start final : Value} (folded : values.foldlM combine start = some final)
    (start_holds : holds start) (values_hold : ∀ value ∈ values, holds value) :
    holds final ↔ ∀ left right, Combines combine start values left right → ¬spoils left right := by
  induction values generalizing start with
  | nil =>
      cases folded
      exact iff_of_true start_holds nofun
  | cons first rest induction =>
      rw [List.foldlM_cons, Option.bind_eq_bind, Option.bind_eq_some_iff] at folded
      obtain ⟨next, combined, folded⟩ := folded
      obtain ⟨first_holds, rest_hold⟩ := List.forall_mem_cons.mp values_hold
      have next_iff := step start first next combined start_holds first_holds
      constructor
      · intro final_holds left right pair
        have next_holds := (all_hold_of_foldlM both folded final_holds).1
        cases pair with
        | first => exact next_iff.mp next_holds
        | later again pair =>
            rw [combined] at again
            cases again
            exact (induction folded next_holds rest_hold).mp final_holds left right pair
      · intro unspoilt
        have next_holds := next_iff.mpr (unspoilt start first .first)
        exact (induction folded next_holds rest_hold).mpr fun left right pair =>
          unspoilt left right (.later combined pair)

end Folding

namespace Operator

/-- The operations of arithmetic that an operator carries out on its operands, with their numbers.
A later one is carried out only if the ones before it come to a number. -/
inductive Performs : Operator → List Number → Arithmetic → Number → Number → Prop
  | term {operands : List Number} {left right : Number} :
      Combines Number.add? .zero operands left right →
      Performs .sum operands .sum left right
  | subtrahend {first left right : Number} {rest : List Number} :
      Combines Number.add? .zero rest left right →
      Performs .subtraction (first :: rest) .sum left right
  | difference {first total : Number} {rest : List Number} :
      rest ≠ [] →
      total? rest = some total →
      Performs .subtraction (first :: rest) .difference first total
  | factor {operands : List Number} {left right : Number} :
      Combines Number.mul? (.integer 1) operands left right →
      Performs .multiplication operands .product left right
  | quotient {dividend divisor : Number} {rest : List Number} :
      divisor.equal .zero = false →
      Performs .division (dividend :: divisor :: rest) .quotient dividend divisor
  | rate {base rate : Number} {rest : List Number} :
      Performs .percentage (base :: rate :: rest) .product base rate
  | hundredth {base rate product : Number} {rest : List Number} :
      base.mul? rate = some product →
      Performs .percentage (base :: rate :: rest) .quotient product (.integer 100)

/-- An operator carries out an operation whose double-precision result is too large. -/
def Overruns (operator : Operator) (operands : List Number) : Prop :=
  ∃ arithmetic left right, operator.Performs operands arithmetic left right ∧
    arithmetic.Overruns left right

/-- An operator meets numbers that do not combine. -/
def Refuses (operator : Operator) (operands : List Number) : Prop :=
  ∃ arithmetic left right, operator.Performs operands arithmetic left right ∧
    arithmetic.Refuses left right

variable {node : String} {operator : Operator} {operands : List Number} {value : Number}

/-- Operators divide by nothing but numbers other than zero. -/
theorem Performs.defined {arithmetic : Arithmetic} {left right : Number}
    (performs : operator.Performs operands arithmetic left right) : arithmetic.Defined right := by
  cases performs with
  | term | subtrahend | difference | factor | rate => exact nofun
  | quotient nonzero => exact fun _ => nonzero
  | hundredth => exact fun _ => Number.hundred_ne_zero

theorem refuses_iff : operator.Refuses operands ↔ ∃ arithmetic left right,
    operator.Performs operands arithmetic left right ∧ arithmetic.compute? left right = none := by
  constructor
  · rintro ⟨arithmetic, left, right, performs, refuses⟩
    exact ⟨arithmetic, left, right, performs,
      (Arithmetic.compute?_eq_none_iff performs.defined).mpr refuses⟩
  · rintro ⟨arithmetic, left, right, performs, none_eq⟩
    exact ⟨arithmetic, left, right, performs,
      (Arithmetic.compute?_eq_none_iff performs.defined).mp none_eq⟩

theorem orOverflow_eq_error_iff {computed : Option Number} :
    orOverflow node computed = .error (.overflow node) ↔ computed = none := by
  cases computed with
  | none => exact iff_of_true rfl rfl
  | some => exact iff_of_false nofun nofun

theorem difference?_of_ne_nil {first : Number} {rest : List Number} (nonempty : rest ≠ []) :
    difference? first rest = (total? rest).bind first.sub? := by
  cases rest with
  | nil => exact absurd rfl nonempty
  | cons => rfl

theorem apply_eq_overflow_of_performs {arithmetic : Arithmetic} {left right : Number}
    (performs : operator.Performs operands arithmetic left right)
    (stops : arithmetic.compute? left right = none) :
    operator.apply node operands = .error (.overflow node) := by
  cases performs with
  | term pair =>
      have total_eq : total? operands = none := foldlM_eq_none_iff.mpr ⟨left, right, pair, stops⟩
      cases pair <;> exact orOverflow_eq_error_iff.mpr total_eq
  | subtrahend pair =>
      have total_eq := foldlM_eq_none_iff.mpr ⟨left, right, pair, stops⟩
      refine orOverflow_eq_error_iff.mpr ?_
      rw [difference?_of_ne_nil pair.ne_nil, total?, total_eq, Option.bind_none]
  | difference nonempty total_eq =>
      refine orOverflow_eq_error_iff.mpr ?_
      rw [difference?_of_ne_nil nonempty, total_eq, Option.bind_some]
      exact stops
  | factor pair =>
      have product_eq : product? operands = none :=
        foldlM_eq_none_iff.mpr ⟨left, right, pair, stops⟩
      cases pair <;> exact orOverflow_eq_error_iff.mpr product_eq
  | quotient nonzero =>
      simp only [apply, nonzero]
      exact orOverflow_eq_error_iff.mpr stops
  | rate =>
      have product_eq : left.mul? right = none := stops
      refine orOverflow_eq_error_iff.mpr ?_
      rw [percentage?, product_eq, Option.bind_none]
  | hundredth product_eq =>
      refine orOverflow_eq_error_iff.mpr ?_
      rw [percentage?, product_eq, Option.bind_some]
      exact stops

/-- Where an operation fails with an overflow, its numbers do not combine. -/
theorem exists_performs_of_overflow
    (applied : operator.apply node operands = .error (.overflow node)) :
    ∃ arithmetic left right, operator.Performs operands arithmetic left right ∧
      arithmetic.compute? left right = none := by
  cases operands with
  | nil => cases applied
  | cons first rest =>
      cases operator with
      | sum =>
          obtain ⟨left, right, pair, stops⟩ :=
            foldlM_eq_none_iff.mp (orOverflow_eq_error_iff.mp applied)
          exact ⟨.sum, left, right, .term pair, stops⟩
      | subtraction =>
          have difference_eq := orOverflow_eq_error_iff.mp applied
          have nonempty : rest ≠ [] := by
            rintro rfl
            cases difference_eq
          rw [difference?_of_ne_nil nonempty] at difference_eq
          cases total_eq : total? rest with
          | none =>
              obtain ⟨left, right, pair, stops⟩ := foldlM_eq_none_iff.mp total_eq
              exact ⟨.sum, left, right, .subtrahend pair, stops⟩
          | some total =>
              rw [total_eq, Option.bind_some] at difference_eq
              exact ⟨.difference, first, total, .difference nonempty total_eq, difference_eq⟩
      | multiplication =>
          obtain ⟨left, right, pair, stops⟩ :=
            foldlM_eq_none_iff.mp (orOverflow_eq_error_iff.mp applied)
          exact ⟨.product, left, right, .factor pair, stops⟩
      | division =>
          cases rest with
          | nil => cases applied
          | cons divisor rest =>
              simp only [apply] at applied
              split at applied
              · cases applied
              · rename_i nonzero
                exact ⟨.quotient, first, divisor, .quotient (Bool.eq_false_iff.mpr nonzero),
                  orOverflow_eq_error_iff.mp applied⟩
      | percentage =>
          cases rest with
          | nil => cases applied
          | cons rate rest =>
              have percentage_eq := orOverflow_eq_error_iff.mp applied
              rw [percentage?] at percentage_eq
              cases product_eq : first.mul? rate with
              | none => exact ⟨.product, first, rate, .rate, product_eq⟩
              | some product =>
                  rw [product_eq, Option.bind_some] at percentage_eq
                  exact ⟨.quotient, product, .integer 100, .hundredth product_eq, percentage_eq⟩
      | greaterThan | lessThan | equal | greaterEqual | lessEqual => cases applied

/-- An operation reports an overflow if and only if it meets numbers that do not combine. -/
theorem apply_eq_overflow_iff :
    operator.apply node operands = .error (.overflow node) ↔ operator.Refuses operands := by
  rw [refuses_iff]
  constructor
  · exact exists_performs_of_overflow
  · rintro ⟨_, _, _, performs, stops⟩
    exact apply_eq_overflow_of_performs performs stops

/-- Sums and products keep finite numbers finite unless a pair of them overruns. -/
theorem isFinite_foldlM_iff (arithmetic : Arithmetic) (undivided : arithmetic ≠ .quotient)
    {start final : Number} (folded : operands.foldlM arithmetic.compute? start = some final)
    (start_finite : start.IsFinite) (finite : ∀ operand ∈ operands, operand.IsFinite) :
    final.IsFinite ↔ ∀ left right, Combines arithmetic.compute? start operands left right →
      ¬arithmetic.Overruns left right := by
  have defined (divisor : Number) : arithmetic.Defined divisor := fun divided =>
    absurd divided undivided
  refine foldlM_holds_iff (fun left right value => ?_) (fun left right value => ?_) folded
    start_finite finite
  · exact arithmetic.isFinite_iff_of_finite (defined right)
  · intro computed value_finite
    obtain ⟨left_finite, right_finite⟩ := arithmetic.isFinite_operands computed value_finite
    exact ⟨left_finite, right_finite undivided⟩

section Steps

variable {first second total product : Number} {rest : List Number}

theorem not_overruns_iff : ¬operator.Overruns operands ↔ ∀ arithmetic left right,
    operator.Performs operands arithmetic left right → ¬arithmetic.Overruns left right := by
  simp only [Overruns, not_exists, not_and]

theorem not_overruns_sum_iff : ¬Overruns .sum operands ↔
    ∀ left right, Combines Number.add? .zero operands left right →
      ¬Arithmetic.sum.Overruns left right := by
  rw [not_overruns_iff]
  constructor
  · exact fun safe left right pair => safe .sum left right (.term pair)
  · intro safe arithmetic left right performs
    cases performs with
    | term pair => exact safe left right pair

theorem not_overruns_multiplication_iff : ¬Overruns .multiplication operands ↔
    ∀ left right, Combines Number.mul? (.integer 1) operands left right →
      ¬Arithmetic.product.Overruns left right := by
  rw [not_overruns_iff]
  constructor
  · exact fun safe left right pair => safe .product left right (.factor pair)
  · intro safe arithmetic left right performs
    cases performs with
    | factor pair => exact safe left right pair

theorem not_overruns_single : ¬Overruns .subtraction [first] := by
  rw [not_overruns_iff]
  intro arithmetic left right performs
  cases performs with
  | subtrahend pair => exact absurd rfl pair.ne_nil
  | difference nonempty _ => exact absurd rfl nonempty

theorem not_overruns_subtraction_iff (nonempty : rest ≠ []) (total_eq : total? rest = some total) :
    ¬Overruns .subtraction (first :: rest) ↔
      (∀ left right, Combines Number.add? .zero rest left right →
        ¬Arithmetic.sum.Overruns left right) ∧ ¬Arithmetic.difference.Overruns first total := by
  rw [not_overruns_iff]
  constructor
  · intro safe
    exact ⟨fun left right pair => safe .sum left right (.subtrahend pair),
      safe .difference first total (.difference nonempty total_eq)⟩
  · rintro ⟨safe_total, safe⟩ arithmetic left right performs
    cases performs with
    | subtrahend pair => exact safe_total left right pair
    | difference _ again =>
        rw [total_eq] at again
        cases again
        exact safe

theorem not_overruns_division_iff (nonzero : second.equal .zero = false) :
    ¬Overruns .division (first :: second :: rest) ↔
      ¬Arithmetic.quotient.Overruns first second := by
  rw [not_overruns_iff]
  constructor
  · exact fun safe => safe .quotient first second (.quotient nonzero)
  · intro safe arithmetic left right performs
    cases performs with
    | quotient => exact safe

theorem not_overruns_percentage_iff (product_eq : first.mul? second = some product) :
    ¬Overruns .percentage (first :: second :: rest) ↔
      ¬Arithmetic.product.Overruns first second ∧
        ¬Arithmetic.quotient.Overruns product (.integer 100) := by
  rw [not_overruns_iff]
  constructor
  · intro safe
    exact ⟨safe .product first second .rate,
      safe .quotient product (.integer 100) (.hundredth product_eq)⟩
  · rintro ⟨safe_product, safe⟩ arithmetic left right performs
    cases performs with
    | rate => exact safe_product
    | hundredth again =>
        rw [product_eq] at again
        cases again
        exact safe

end Steps

/-- An operation of finite operands has a finite value if and only if it does not overrun. -/
theorem isFinite_iff_of_apply (applied : operator.apply node operands = .ok value)
    (finite : ∀ operand ∈ operands, operand.IsFinite) :
    value.IsFinite ↔ ¬operator.Overruns operands := by
  cases applies_of_apply applied with
  | sum total_eq =>
      rw [not_overruns_sum_iff]
      exact isFinite_foldlM_iff .sum nofun total_eq trivial finite
  | same => exact iff_of_true (finite _ List.mem_cons_self) not_overruns_single
  | @difference first total _ rest total_eq difference_eq =>
      obtain ⟨first_finite, rest_finite⟩ := List.forall_mem_cons.mp finite
      by_cases single : rest = []
      · subst single
        cases applied
        exact iff_of_true first_finite not_overruns_single
      · rw [not_overruns_subtraction_iff single total_eq,
          Arithmetic.difference.isFinite_iff nofun difference_eq nofun, and_iff_right first_finite,
          isFinite_foldlM_iff .sum nofun total_eq trivial rest_finite]
        rfl
  | product product_eq =>
      rw [not_overruns_multiplication_iff]
      exact isFinite_foldlM_iff .product nofun product_eq trivial finite
  | quotient rest nonzero divided =>
      obtain ⟨dividend_finite, finite⟩ := List.forall_mem_cons.mp finite
      obtain ⟨divisor_finite, _⟩ := List.forall_mem_cons.mp finite
      rw [not_overruns_division_iff nonzero]
      exact Arithmetic.quotient.isFinite_iff_of_finite (fun _ => nonzero) divided dividend_finite
        divisor_finite
  | percentage rest product_eq divided =>
      obtain ⟨base_finite, finite⟩ := List.forall_mem_cons.mp finite
      obtain ⟨rate_finite, _⟩ := List.forall_mem_cons.mp finite
      have hundred_finite : (Number.integer 100).IsFinite := trivial
      rw [not_overruns_percentage_iff product_eq,
        Arithmetic.quotient.isFinite_iff (fun _ => Number.hundred_ne_zero) divided
          (fun _ => hundred_finite), and_iff_right hundred_finite,
        Arithmetic.product.isFinite_iff_of_finite nofun product_eq base_finite rate_finite]

end Operator
end PayGraph
