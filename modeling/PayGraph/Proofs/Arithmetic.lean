import PayGraph.Operator.Application

/-!
# Whole numbers in arithmetic

Whole operands combine exactly, into whole numbers of any size; one operand in double precision
makes the result one.  So a whole result shows that all operands were whole, and where every whole
operand is zero, so is every whole result.
-/

namespace PayGraph

theorem holds_of_foldlM {Value : Type} {combine : Value → Value → Option Value}
    {holds : Value → Prop}
    (step : ∀ left right value, holds left → holds right → combine left right = some value →
      holds value)
    {values : List Value} {start final : Value} (folded : values.foldlM combine start = some final)
    (start_holds : holds start) (values_hold : ∀ value ∈ values, holds value) : holds final := by
  induction values generalizing start with
  | nil =>
      cases folded
      exact start_holds
  | cons first rest induction =>
      rw [List.foldlM_cons, Option.bind_eq_bind, Option.bind_eq_some_iff] at folded
      obtain ⟨next, combined, folded⟩ := folded
      have next_holds := step start first next start_holds (values_hold first List.mem_cons_self)
        combined
      exact induction folded next_holds fun value member =>
        values_hold value (List.mem_cons_of_mem _ member)

/-- If a property of a step's result is one of both operands, it is one of all folded values. -/
theorem all_hold_of_foldlM {Value : Type} {combine : Value → Value → Option Value}
    {holds : Value → Prop}
    (step : ∀ left right value, combine left right = some value → holds value →
      holds left ∧ holds right)
    {values : List Value} {start final : Value} (folded : values.foldlM combine start = some final)
    (final_holds : holds final) : holds start ∧ ∀ value ∈ values, holds value := by
  induction values generalizing start with
  | nil =>
      cases folded
      exact ⟨final_holds, fun value member => absurd member List.not_mem_nil⟩
  | cons first rest induction =>
      rw [List.foldlM_cons, Option.bind_eq_bind, Option.bind_eq_some_iff] at folded
      obtain ⟨next, combined, folded⟩ := folded
      obtain ⟨next_holds, rest_hold⟩ := induction folded
      obtain ⟨start_holds, first_holds⟩ := step start first next combined next_holds
      exact ⟨start_holds, List.forall_mem_cons.mpr ⟨first_holds, rest_hold⟩⟩

namespace Number

/-- The number is whole by its kind: a truth value or a whole number. -/
def IsWhole (number : Number) : Prop :=
  ∃ whole, number.whole? = some whole

theorem combine?_cases {exact : Int → Int → Int} {rounded : Binary64 → Binary64 → Binary64}
    {left right value : Number} (combined : combine? exact rounded left right = some value) :
    (∃ leftWhole rightWhole, left.whole? = some leftWhole ∧ right.whole? = some rightWhole ∧
        value = .integer (exact leftWhole rightWhole)) ∨ ∃ real, value = .real real := by
  rw [combine?] at combined
  split at combined
  · rename_i leftWhole rightWhole left_whole right_whole
    cases combined
    exact Or.inl ⟨leftWhole, rightWhole, left_whole, right_whole, rfl⟩
  · split at combined
    · cases combined
      exact Or.inr ⟨_, rfl⟩
    · cases combined

theorem not_isWhole_real (value : Binary64) : ¬IsWhole (.real value) := by
  rintro ⟨whole, same⟩
  cases same

theorem isWhole_of_combine? {exact : Int → Int → Int}
    {rounded : Binary64 → Binary64 → Binary64} (left right value : Number)
    (combined : combine? exact rounded left right = some value) (whole : value.IsWhole) :
    left.IsWhole ∧ right.IsWhole := by
  rcases combine?_cases combined with ⟨_, _, left_whole, right_whole, _⟩ | ⟨real, rfl⟩
  · exact ⟨⟨_, left_whole⟩, ⟨_, right_whole⟩⟩
  · exact absurd whole (not_isWhole_real real)

theorem exists_real_of_div? {dividend divisor value : Number}
    (divided : dividend.div? divisor = some value) : ∃ real, value = .real real := by
  rw [div?] at divided
  split at divided
  · obtain ⟨real, _, rfl⟩ := Option.map_eq_some_iff.mp divided
    exact ⟨real, rfl⟩
  · split at divided
    · cases divided
      exact ⟨_, rfl⟩
    · cases divided

/-- A number in double precision, or whole zero. -/
inductive Tame : Number → Prop
  | real (value : Binary64) : Tame (.real value)
  | zero : Tame .zero

theorem Tame.whole_eq_zero {number : Number} (tame : number.Tame) {whole : Int}
    (held : number.whole? = some whole) : whole = 0 := by
  cases tame <;> cases held
  rfl

/-- Tame numbers combine into a tame one if zeros give zero. -/
theorem Tame.combine? {exact : Int → Int → Int} {rounded : Binary64 → Binary64 → Binary64}
    (zeros : exact 0 0 = 0) (left right value : Number) (left_tame : left.Tame)
    (right_tame : right.Tame) (combined : combine? exact rounded left right = some value) :
    value.Tame := by
  rcases combine?_cases combined with ⟨_, _, left_whole, right_whole, rfl⟩ | ⟨real, rfl⟩
  · rw [left_tame.whole_eq_zero left_whole, right_tame.whole_eq_zero right_whole, zeros]
    exact .zero
  · exact .real real

end Number

namespace Operator

open Number

variable {node : String} {operator : Operator} {operands : List Number} {value : Number}

theorem some_of_orOverflow {computed : Option Number}
    (applied : orOverflow node computed = .ok value) : computed = some value := by
  cases computed with
  | none => cases applied
  | some number =>
      cases applied
      rfl

/-- How an operation comes by its value: it adds, subtracts or multiplies all of its operands, or
divides the first two or their product by a hundred. -/
inductive Applies : Operator → List Number → Number → Prop
  | sum {first value : Number} {rest : List Number} :
      total? (first :: rest) = some value → Applies .sum (first :: rest) value
  | same (operand : Number) : Applies .subtraction [operand] operand
  | difference {first total value : Number} {rest : List Number} :
      total? rest = some total → first.sub? total = some value →
      Applies .subtraction (first :: rest) value
  | product {first value : Number} {rest : List Number} :
      product? (first :: rest) = some value → Applies .multiplication (first :: rest) value
  | quotient {dividend divisor value : Number} (rest : List Number) :
      divisor.equal .zero = false → dividend.div? divisor = some value →
      Applies .division (dividend :: divisor :: rest) value
  | percentage {base rate product value : Number} (rest : List Number) :
      base.mul? rate = some product → product.div? (.integer 100) = some value →
      Applies .percentage (base :: rate :: rest) value

theorem applies_of_apply (applied : operator.apply node operands = .ok value) :
    Applies operator operands value := by
  cases operands with
  | nil => cases applied
  | cons first rest =>
      cases operator with
      | sum => exact .sum (some_of_orOverflow applied)
      | subtraction =>
          have computed := some_of_orOverflow applied
          cases rest with
          | nil =>
              cases computed
              exact .same value
          | cons second rest =>
              obtain ⟨total, total_eq, difference⟩ := Option.bind_eq_some_iff.mp computed
              exact .difference total_eq difference
      | multiplication => exact .product (some_of_orOverflow applied)
      | division =>
          cases rest with
          | nil => cases applied
          | cons divisor rest =>
              simp only [apply] at applied
              split at applied
              · cases applied
              · rename_i nonzero
                exact .quotient rest (Bool.eq_false_iff.mpr nonzero) (some_of_orOverflow applied)
      | percentage =>
          cases rest with
          | nil => cases applied
          | cons rate rest =>
              have computed := some_of_orOverflow applied
              obtain ⟨product, product_eq, divided⟩ := Option.bind_eq_some_iff.mp computed
              exact .percentage rest product_eq divided
      | greaterThan | lessThan | equal | greaterEqual | lessEqual => cases applied

/-- An operation with a whole value had whole operands. -/
theorem Applies.isWhole (applies : Applies operator operands value) (whole : value.IsWhole) :
    ∀ operand ∈ operands, operand.IsWhole := by
  cases applies with
  | sum total_eq => exact (all_hold_of_foldlM isWhole_of_combine? total_eq whole).2
  | same => simpa using whole
  | difference total_eq difference =>
      obtain ⟨first_whole, total_whole⟩ := isWhole_of_combine? _ _ _ difference whole
      have rest_whole := (all_hold_of_foldlM isWhole_of_combine? total_eq total_whole).2
      exact List.forall_mem_cons.mpr ⟨first_whole, rest_whole⟩
  | product product_eq => exact (all_hold_of_foldlM isWhole_of_combine? product_eq whole).2
  | quotient _ _ divided | percentage _ _ divided =>
      obtain ⟨real, rfl⟩ := exists_real_of_div? divided
      exact absurd whole (not_isWhole_real real)

/-- An operation of tame operands has a tame value. -/
theorem Applies.tame (applies : Applies operator operands value)
    (tame : ∀ operand ∈ operands, operand.Tame) : value.Tame := by
  cases applies with
  | sum total_eq => exact holds_of_foldlM (Tame.combine? rfl) total_eq .zero tame
  | same => exact tame _ List.mem_cons_self
  | difference total_eq difference =>
      obtain ⟨first_tame, rest_tame⟩ := List.forall_mem_cons.mp tame
      have total_tame := holds_of_foldlM (Tame.combine? rfl) total_eq .zero rest_tame
      exact Tame.combine? rfl _ _ _ first_tame total_tame difference
  | product product_eq =>
      obtain ⟨first_tame, rest_tame⟩ := List.forall_mem_cons.mp tame
      rw [product?, List.foldlM_cons, Option.bind_eq_bind, Option.bind_eq_some_iff] at product_eq
      obtain ⟨start, start_eq, folded⟩ := product_eq
      -- The product begins at one, which is not tame, but its first step makes it so.
      have start_tame : start.Tame := by
        rcases combine?_cases start_eq with ⟨_, _, _, held, rfl⟩ | ⟨real, rfl⟩
        · rw [first_tame.whole_eq_zero held, Int.mul_zero]
          exact .zero
        · exact .real real
      exact holds_of_foldlM (Tame.combine? rfl) folded start_tame rest_tame
  | quotient _ _ divided | percentage _ _ divided =>
      obtain ⟨real, rfl⟩ := exists_real_of_div? divided
      exact .real real

end Operator
end PayGraph
