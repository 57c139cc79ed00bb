import Mathlib
import PayGraph.Proofs.Arithmetic

/-!
# Arithmetic on whole numbers

Whole operands of any size have an exact sum, difference and product.  So their order does not
matter, except that a difference keeps its first operand, and neighbouring operands may be taken
together, except that a difference takes them from its front.
-/

namespace PayGraph
namespace Number

/-- The whole number that a number holds by its kind, zero if it is in double precision. -/
def whole (number : Number) : Int :=
  number.whole?.getD 0

variable {left right : Number} {operands : List Number}

@[simp] theorem whole_integer (value : Int) : (integer value).whole = value := rfl

theorem isWhole_integer (value : Int) : (integer value).IsWhole :=
  ⟨value, rfl⟩

theorem IsWhole.whole?_eq (is_whole : left.IsWhole) : left.whole? = some left.whole := by
  obtain ⟨value, held⟩ := is_whole
  rw [whole, held, Option.getD_some]

section Combine

variable {exact : Int → Int → Int} {rounded : Binary64 → Binary64 → Binary64}

theorem combine?_of_whole (left_whole : left.IsWhole) (right_whole : right.IsWhole) :
    combine? exact rounded left right = some (.integer (exact left.whole right.whole)) := by
  simp only [combine?, left_whole.whole?_eq, right_whole.whole?_eq]

theorem foldlM_combine?_of_whole (operands_whole : ∀ operand ∈ operands, operand.IsWhole)
    (start : Int) :
    operands.foldlM (combine? exact rounded) (.integer start) =
      some (.integer ((operands.map whole).foldl exact start)) := by
  induction operands generalizing start with
  | nil => rfl
  | cons first rest induction =>
      obtain ⟨first_whole, rest_whole⟩ := List.forall_mem_cons.mp operands_whole
      rw [List.foldlM_cons, combine?_of_whole (isWhole_integer start) first_whole,
        Option.bind_eq_bind, Option.bind_some, induction rest_whole, List.map_cons, List.foldl_cons,
        whole_integer]

end Combine

end Number

namespace Operator

open Number

variable {node group : String} {operator : Operator} {first : Number} {operands rest : List Number}

theorem total?_of_whole (operands_whole : ∀ operand ∈ operands, operand.IsWhole) :
    total? operands = some (.integer (operands.map whole).sum) := by
  rw [total?, zero, add?, foldlM_combine?_of_whole operands_whole, List.sum_eq_foldl]

theorem product?_of_whole (operands_whole : ∀ operand ∈ operands, operand.IsWhole) :
    product? operands = some (.integer (operands.map whole).prod) := by
  rw [product?, mul?, foldlM_combine?_of_whole operands_whole, List.prod_eq_foldl]

/-- A sum of whole numbers is their mathematical sum. -/
theorem apply_sum_of_whole (node : String) (nonempty : operands ≠ [])
    (operands_whole : ∀ operand ∈ operands, operand.IsWhole) :
    sum.apply node operands = .ok (.integer (operands.map whole).sum) := by
  have applied : sum.apply node operands = orOverflow node (total? operands) := by
    obtain ⟨first, rest, rfl⟩ := List.exists_cons_of_ne_nil nonempty
    rfl
  rw [applied, total?_of_whole operands_whole, orOverflow]

theorem apply_multiplication_of_whole (node : String) (nonempty : operands ≠ [])
    (operands_whole : ∀ operand ∈ operands, operand.IsWhole) :
    multiplication.apply node operands = .ok (.integer (operands.map whole).prod) := by
  have applied : multiplication.apply node operands = orOverflow node (product? operands) := by
    obtain ⟨first, rest, rfl⟩ := List.exists_cons_of_ne_nil nonempty
    rfl
  rw [applied, product?_of_whole operands_whole, orOverflow]

theorem apply_subtraction_single (node : String) (operand : Number) :
    subtraction.apply node [operand] = .ok operand := rfl

/-- A difference of whole numbers is the first of them less the sum of the others. -/
theorem apply_subtraction_of_whole (node : String) (nonempty : rest ≠ [])
    (first_whole : first.IsWhole) (rest_whole : ∀ operand ∈ rest, operand.IsWhole) :
    subtraction.apply node (first :: rest) =
      .ok (.integer (first.whole - (rest.map whole).sum)) := by
  obtain ⟨second, others, rfl⟩ := List.exists_cons_of_ne_nil nonempty
  rw [apply, difference?, total?_of_whole rest_whole, Option.bind_some, sub?,
    combine?_of_whole first_whole (isWhole_integer _), orOverflow, whole_integer]
  exact List.cons_ne_nil _ _

/-- The order of whole operands does not matter to their sum and their product. -/
theorem apply_perm (node : String) {others : List Number}
    (symmetric : operator = .sum ∨ operator = .multiplication)
    (operands_whole : ∀ operand ∈ operands, operand.IsWhole) (perm : operands.Perm others) :
    operator.apply node others = operator.apply node operands := by
  by_cases empty : operands = []
  · subst empty
    rw [perm.nil_eq]
  · have others_ne : others ≠ [] := fun nil => empty (by rwa [nil, List.perm_nil] at perm)
    have others_whole : ∀ operand ∈ others, operand.IsWhole := fun operand member =>
      operands_whole operand (perm.mem_iff.mpr member)
    rcases symmetric with rfl | rfl
    · rw [apply_sum_of_whole node others_ne others_whole,
        apply_sum_of_whole node empty operands_whole, (perm.map whole).sum_eq]
    · rw [apply_multiplication_of_whole node others_ne others_whole,
        apply_multiplication_of_whole node empty operands_whole, (perm.map whole).prod_eq]

/-- The order of whole operands after the first does not matter to their difference. -/
theorem apply_subtraction_perm (node : String) {others : List Number} (first_whole : first.IsWhole)
    (rest_whole : ∀ operand ∈ rest, operand.IsWhole) (perm : rest.Perm others) :
    subtraction.apply node (first :: others) = subtraction.apply node (first :: rest) := by
  by_cases alone : rest = []
  · subst alone
    rw [perm.nil_eq]
  · have others_ne : others ≠ [] := fun nil => alone (by rwa [nil, List.perm_nil] at perm)
    rw [apply_subtraction_of_whole node others_ne first_whole fun operand member =>
        rest_whole operand (perm.mem_iff.mpr member),
      apply_subtraction_of_whole node alone first_whole rest_whole, (perm.map whole).sum_eq]

/-- Operands of an operator that have so many before them may be taken together: any operands of a
sum or a product, but only the first ones of a difference. -/
inductive Nestable : Operator → Nat → Prop
  | sum (before : Nat) : Nestable .sum before
  | multiplication (before : Nat) : Nestable .multiplication before
  | subtraction : Nestable .subtraction 0

/-- What is taken from the first operand may be taken from it in two goes. -/
theorem exists_apply_subtraction {members after : List Number} (node group : String)
    (nonempty : members ≠ []) (all_whole : ∀ operand ∈ members ++ after, operand.IsWhole) :
    ∃ value, subtraction.apply group members = .ok value ∧ value.IsWhole ∧
      subtraction.apply node (members ++ after) = subtraction.apply node (value :: after) := by
  obtain ⟨members_whole, after_whole⟩ := List.forall_mem_append.mp all_whole
  obtain ⟨first, rest, rfl⟩ := List.exists_cons_of_ne_nil nonempty
  obtain ⟨first_whole, rest_whole⟩ := List.forall_mem_cons.mp members_whole
  by_cases alone : rest = []
  · -- a single operand is passed on as it is held
    subst alone
    exact ⟨first, apply_subtraction_single group first, first_whole, rfl⟩
  · refine ⟨_, apply_subtraction_of_whole group alone first_whole rest_whole,
      isWhole_integer _, ?_⟩
    by_cases last : after = []
    · subst last
      rw [List.append_nil, apply_subtraction_of_whole node alone first_whole rest_whole,
        apply_subtraction_single]
    · have others_whole := List.forall_mem_append.mpr ⟨rest_whole, after_whole⟩
      rw [List.cons_append,
        apply_subtraction_of_whole node (by simp [alone]) first_whole others_whole,
        apply_subtraction_of_whole node last (isWhole_integer _) after_whole]
      simp [sub_sub]

/-- Neighbouring operands may be taken together in another node, whose value then takes their
place. -/
theorem Nestable.exists_apply {before members after : List Number}
    (nestable : operator.Nestable before.length) (node group : String) (nonempty : members ≠ [])
    (all_whole : ∀ operand ∈ before ++ members ++ after, operand.IsWhole) :
    ∃ value, operator.apply group members = .ok value ∧ value.IsWhole ∧
      operator.apply node (before ++ members ++ after) =
        operator.apply node (before ++ value :: after) := by
  have members_whole : ∀ operand ∈ members, operand.IsWhole := fun operand member =>
    all_whole operand (by simp [member])
  have nested_whole (value : Int) :
      ∀ operand ∈ before ++ integer value :: after, operand.IsWhole := by
    intro operand member
    rcases List.mem_append.mp member with earlier | member
    · exact all_whole operand (by simp [earlier])
    · rcases List.mem_cons.mp member with rfl | later
      · exact isWhole_integer value
      · exact all_whole operand (by simp [later])
  generalize count_eq : before.length = count at nestable
  cases nestable with
  | sum =>
      refine ⟨_, apply_sum_of_whole group nonempty members_whole, isWhole_integer _, ?_⟩
      rw [apply_sum_of_whole node (by simp [nonempty]) all_whole,
        apply_sum_of_whole node (by simp) (nested_whole _)]
      simp
  | multiplication =>
      refine ⟨_, apply_multiplication_of_whole group nonempty members_whole, isWhole_integer _, ?_⟩
      rw [apply_multiplication_of_whole node (by simp [nonempty]) all_whole,
        apply_multiplication_of_whole node (by simp) (nested_whole _)]
      simp
  | subtraction =>
      obtain rfl := List.length_eq_zero_iff.mp count_eq
      exact exists_apply_subtraction node group nonempty all_whole

/-- The whole operands of a sum or a product may be cut in two, each part taken together. -/
theorem exists_apply_append {front back : List Number}
    (symmetric : operator = .sum ∨ operator = .multiplication) (node left right : String)
    (front_ne : front ≠ []) (back_ne : back ≠ [])
    (all_whole : ∀ operand ∈ front ++ back, operand.IsWhole) :
    ∃ leftValue rightValue, operator.apply left front = .ok leftValue ∧
      operator.apply right back = .ok rightValue ∧
      operator.apply node (front ++ back) = operator.apply node [leftValue, rightValue] := by
  have nestable (before : Nat) : operator.Nestable before := by
    rcases symmetric with rfl | rfl
    · exact .sum before
    · exact .multiplication before
  obtain ⟨leftValue, left_applied, left_whole, front_nested⟩ :=
    (nestable [].length).exists_apply node left front_ne all_whole
  have still_whole : ∀ operand ∈ [leftValue] ++ back ++ [], operand.IsWhole := by
    rw [List.append_nil]
    exact List.forall_mem_cons.mpr ⟨left_whole, (List.forall_mem_append.mp all_whole).2⟩
  obtain ⟨rightValue, right_applied, -, back_nested⟩ :=
    (nestable [leftValue].length).exists_apply node right back_ne still_whole
  rw [List.append_nil] at back_nested
  exact ⟨leftValue, rightValue, left_applied, right_applied, front_nested.trans back_nested⟩

end Operator
end PayGraph
