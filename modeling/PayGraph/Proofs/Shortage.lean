import Mathlib
import PayGraph.Proofs.Flaws

/-!
# Want of operands

An operation lacks operands if it has none, or if it is a division or a percentage with a single
one.  The checks report every operation without operands.  They overlook the single operand, so a
division or a percentage that lacks one is reported only if it happens to begin the reported cycle.
-/

namespace PayGraph
namespace Operator

/-- The operands that an operator requires where it is given too few. -/
inductive Lacks : Operator → Nat → Nat → Prop
  | all (operator : Operator) : Lacks operator 1 0
  | divisor : Lacks .division 2 1
  | rate : Lacks .percentage 2 1

theorem Lacks.arithmetic {operator : Operator} {required given : Nat}
    (lacks : operator.Lacks required given) (fed : given ≠ 0) : operator.isRelational = false := by
  cases lacks with
  | all => exact absurd rfl fed
  | divisor | rate => rfl

/-- An operation that fails for want of operands blames itself and counts what it was given. -/
theorem lacks_of_apply_error {node blamed word : String} {operator : Operator}
    {operands : List Number} {required given : Nat}
    (applied : operator.apply node operands =
      .error (.insufficientOperands blamed word required given)) :
    blamed = node ∧ word = operator.word ∧ given = operands.length ∧
      operator.Lacks required given := by
  cases operands with
  | nil =>
      cases applied
      exact ⟨rfl, rfl, rfl, .all operator⟩
  | cons first rest =>
      cases operator with
      | sum | subtraction | multiplication => cases overflow_of_orOverflow_error applied
      | division =>
          cases rest with
          | nil =>
              cases applied
              exact ⟨rfl, rfl, rfl, .divisor⟩
          | cons divisor rest =>
              simp only [apply] at applied
              split at applied
              · cases applied
              · cases overflow_of_orOverflow_error applied
      | percentage =>
          cases rest with
          | nil =>
              cases applied
              exact ⟨rfl, rfl, rfl, .rate⟩
          | cons rate rest => cases overflow_of_orOverflow_error applied
      | greaterThan | lessThan | equal | greaterEqual | lessEqual => cases applied

end Operator

namespace Formula

variable {formula : Formula} {inputs : Inputs} {id : String}

/-- Only an operation is to blame for want of operands. -/
theorem Blames.lacks {blamed word : String} {required given : Nat}
    (blame : formula.Blames inputs id (.insufficientOperands blamed word required given)) :
    blamed = id ∧ ∃ operator, formula.node id = .ok ⟨id, .operation operator⟩ ∧
      word = operator.word ∧ (formula.incoming id).length = given ∧
      operator.Lacks required given := by
  cases blame with
  | unreadable read =>
      rcases absent_or_readsAs_of_readingOf read with ⟨_, same⟩ | ⟨⟨_, _⟩, _, reads⟩
      · cases same
      · cases reads
  | inconclusive read concluded =>
      rcases Reading.exists_cause_of_conclude_failed concluded with
        ⟨operator, operands, values_eq, applied⟩ | ⟨_, _, _, _, _, same⟩
      · obtain ⟨rfl, word_eq, given_eq, lacks⟩ := Operator.lacks_of_apply_error applied
        obtain ⟨⟨other, kind⟩, found, reads⟩ := readsAs_of_readingOf read
        obtain rfl : other = blamed := node_id found
        cases reads with
        | metric | literal | comparison | passage => cases values_eq
        | fold =>
            cases values_eq
            rw [List.length_map, List.length_map] at given_eq
            exact ⟨rfl, operator, found, word_eq, given_eq.symm, lacks⟩
      · cases same

theorem reports_of_starved {operator : Operator}
    (found : formula.node id = .ok ⟨id, .operation operator⟩)
    (starved : formula.incoming id = []) : formula.Reports id := by
  have listed : Issue.error id "La operación no tiene entradas" ∈
      formula.nodeIssues ⟨id, .operation operator⟩ := by
    simp only [nodeIssues, starved]
    exact List.mem_append_right _ List.mem_cons_self
  exact reports_of_nodeIssues found listed

theorem reports_of_cycle {cycle : List String}
    (found : (DependencyGraph.ofFormula formula).findCycle = some cycle)
    (first : cycle.head? = some id) : formula.Reports id := by
  refine ⟨"Ciclo detectado: " ++ " -> ".intercalate cycle, cycleIssues_subset formula ?_⟩
  simp only [cycleIssues, found, first]
  exact List.mem_cons_self

/-- An arithmetic operation with operands is reported only for a cycle. -/
theorem exists_cycle_of_reports {operator : Operator}
    (found : formula.node id = .ok ⟨id, .operation operator⟩)
    (arithmetic : operator.isRelational = false) (fed : formula.incoming id ≠ [])
    (reported : formula.Reports id) :
    ∃ cycle, (DependencyGraph.ofFormula formula).findCycle = some cycle ∧
      cycle.head? = some id := by
  obtain ⟨message, listed⟩ := reported
  cases grounds_of_mem_issues listed rfl with
  | unresolved about _ => cases about
  | absent about absent =>
      cases about
      rw [node?_of_node found] at absent
      cases absent
  | @flawed node about other_found flaw =>
      obtain ⟨other, kind⟩ := node
      cases about
      rw [found] at other_found
      cases other_found
      cases flaw with
      | relational relational =>
          rw [arithmetic] at relational
          cases relational
      | starved _ empty => exact absurd empty fed
  | cyclic about cycle_found _ => exact ⟨_, cycle_found, about.symm⟩

/-- A run that lacks operands stops at an operation.  The checks report it if it has no operands at
all.  A division or a percentage with a single operand is reported only as the first node of the
reported cycle. -/
theorem shortage_reported_iff {word : String} {required given : Nat}
    (fails : (formula.run inputs).1 =
      .error (.failed (.insufficientOperands id word required given))) :
    ∃ operator, formula.node id = .ok ⟨id, .operation operator⟩ ∧ word = operator.word ∧
      (formula.incoming id).length = given ∧ operator.Lacks required given ∧
      (formula.Reports id ↔ given = 0 ∨
        ∃ cycle, (DependencyGraph.ofFormula formula).findCycle = some cycle ∧
          cycle.head? = some id) := by
  rcases blames_of_run fails with unresolved | deep | ⟨result, blamed, _, _, blame⟩
  · cases missing_of_unresolved unresolved
  · cases deep
  obtain ⟨rfl, operator, found, word_eq, given_eq, lacks⟩ := blame.lacks
  refine ⟨operator, found, word_eq, given_eq, lacks, ?_⟩
  constructor
  · intro reported
    by_cases none_given : given = 0
    · exact Or.inl none_given
    · have fed : formula.incoming id ≠ [] := by
        intro starved
        rw [starved] at given_eq
        exact none_given given_eq.symm
      exact Or.inr (exists_cycle_of_reports found (lacks.arithmetic none_given) fed reported)
  · rintro (none_given | ⟨cycle, cycle_found, first⟩)
    · rw [none_given, List.length_eq_zero_iff] at given_eq
      exact reports_of_starved found given_eq
    · exact reports_of_cycle cycle_found first

/-- A share that leads back into its only metric. -/
def returningShare : Formula where
  id := "returning-share"
  name := "Returning share"
  nodes := [⟨"share", .operation .division⟩, ⟨"classes", .variable "clases"⟩]
  connections := [⟨"c1", "classes", "share", outputSlot, inputSlot⟩,
    ⟨"c2", "share", "classes", outputSlot, inputSlot⟩]
  result? := some "share"
  distinct := by decide

/-- The share is reported, though only for its cycle. -/
theorem returningShare_reported :
    (returningShare.run []).1 =
        .error (.failed (.insufficientOperands "share" "division" 2 1)) ∧
      returningShare.Reports "share" := by
  have fails : (returningShare.run []).1 =
      .error (.failed (.insufficientOperands "share" "division" 2 1)) := by
    decide +kernel
  have cycle_found : (DependencyGraph.ofFormula returningShare).findCycle =
      some ["share", "classes", "share"] := by
    cbv
  obtain ⟨_, _, _, _, _, reported_iff⟩ := shortage_reported_iff fails
  exact ⟨fails, reported_iff.mpr (Or.inr ⟨_, cycle_found, rfl⟩)⟩

/-- A share of a bonus among teachers who are not connected. -/
def loneShare : Formula where
  id := "lone-share"
  name := "Lone share"
  nodes := [⟨"bonus", .constant (.integer 100)⟩, ⟨"share", .operation .division⟩,
    ⟨"amount", .result⟩]
  connections := [⟨"c1", "bonus", "share", outputSlot, inputSlot⟩,
    ⟨"c2", "share", "amount", outputSlot, inputSlot⟩]
  result? := none
  distinct := by decide

/-- The checks find nothing wrong with a division of a single operand, which fails. -/
theorem loneShare_overlooked :
    (loneShare.run []).1 = .error (.failed (.insufficientOperands "share" "division" 2 1)) ∧
      loneShare.issues = [] := by
  refine ⟨by decide +kernel, ?_⟩
  cbv

end Formula
end PayGraph
