import PayGraph.Proofs.FailureLine
import PayGraph.Proofs.Overrun
import PayGraph.Proofs.Success
import PayGraph.Proofs.Unshared

/-!
# Finite amounts

On finite constants and metrics, an amount and its trace are finite unless the line of some
operation stands for a double-precision result that was too large.  Such a result is not reported:
it becomes infinite and is passed on.  What is reported as an overflow is an operation with numbers
that do not combine, and no evaluation that reaches one succeeds.
-/

namespace PayGraph

variable {formula : Formula} {inputs : Inputs}

namespace Formula

/-- Every constant is finite. -/
def FiniteConstants (formula : Formula) : Prop :=
  ∀ node ∈ formula.nodes, ∀ value, node.kind = .constant value → value.IsFinite

/-- A node is an operation, and evaluating its sources gives these values. -/
def Gathers (formula : Formula) (inputs : Inputs) (id : String) (operator : Operator)
    (operands : List Number) : Prop :=
  formula.node id = .ok ⟨id, .operation operator⟩ ∧
    (formula.sources id).mapM (formula.unshared inputs [id]) = .ok operands

/-- The operation at a node overruns on the values of its sources. -/
def Overruns (formula : Formula) (inputs : Inputs) (id : String) : Prop :=
  ∃ operator operands, formula.Gathers inputs id operator operands ∧ operator.Overruns operands

/-- The operation at a node refuses the values of its sources. -/
def Refuses (formula : Formula) (inputs : Inputs) (id : String) : Prop :=
  ∃ operator operands, formula.Gathers inputs id operator operands ∧ operator.Refuses operands

variable {id : String} {operator : Operator} {operands : List Number}

theorem Gathers.overruns_iff (gathers : formula.Gathers inputs id operator operands) :
    formula.Overruns inputs id ↔ operator.Overruns operands := by
  constructor
  · rintro ⟨other, values, ⟨found, values_eq⟩, overruns⟩
    rw [gathers.1] at found
    rw [gathers.2] at values_eq
    cases found
    cases values_eq
    exact overruns
  · exact fun overruns => ⟨operator, operands, gathers, overruns⟩

/-- An operation that refuses the values of its sources fails with an overflow. -/
theorem Refuses.unshared_eq (refuses : formula.Refuses inputs id) :
    formula.unshared inputs [] id = .error (.failed (.overflow id)) := by
  obtain ⟨operator, operands, ⟨found, gathered⟩, refuses⟩ := refuses
  have resolved : (Reading.fold operator (formula.sources id)).resolve
      (formula.unshared inputs [id]) = .ok (.fold operator operands) := by
    rw [Reading.resolve, gathered]
    rfl
  rw [unshared_of_readingOf_ok List.not_mem_nil (readingOf_operation found), resolved]
  simp only [Reading.conclude, Operator.apply_eq_overflow_iff.mpr refuses]
  rfl

end Formula

/-- Every metric is finite. -/
def Inputs.AreFinite (inputs : Inputs) : Prop :=
  ∀ entry ∈ inputs, entry.2.IsFinite

theorem Inputs.AreFinite.valueOf (metrics : inputs.AreFinite) (name : String) :
    (inputs.valueOf name).IsFinite := by
  rw [Inputs.valueOf]
  cases found : inputs.lookup name with
  | none => trivial
  | some value => exact metrics _ (Association.mem_of_lookup found)

section Lines

variable {id : String} {reading : Reading String} {amount : String → Number} {value : Number}
  {step : Step}

theorem Concludes.isFinite_line_iff {values : Reading Number}
    (concludes : Concludes inputs id values value step) :
    step.value.IsFinite ↔ value.IsFinite := by
  cases concludes with
  | metric | literal | fold | passage => exact Iff.rfl
  | comparison => exact iff_of_true trivial trivial

/-- A node whose sources have finite values has a finite one if and only if it does not overrun. -/
theorem Concludes.isFinite_iff (concludes : Concludes inputs id (reading.map amount) value step)
    (constants : formula.FiniteConstants) (metrics : inputs.AreFinite)
    (read : formula.readingOf id = .ok reading)
    (gathered : (formula.sources id).mapM (formula.unshared inputs [id]) =
      .ok ((formula.sources id).map amount))
    (finite : ∀ source ∈ formula.sources id, (amount source).IsFinite) :
    value.IsFinite ↔ ¬formula.Overruns inputs id := by
  have sources_eq := Formula.operands_eq_sources read
  obtain ⟨⟨other, kind⟩, found, reads⟩ := Formula.readsAs_of_readingOf read
  obtain rfl : other = id := Formula.node_id found
  have calm (plain : ∀ operator, kind ≠ .operation operator) : ¬formula.Overruns inputs other := by
    rintro ⟨operator, operands, ⟨operation, _⟩, _⟩
    rw [found] at operation
    cases operation
    exact plain operator rfl
  cases reads with
  | metric name =>
      cases concludes
      exact iff_of_true (metrics.valueOf name) (calm nofun)
  | literal =>
      cases concludes
      exact iff_of_true (constants _ (Formula.mem_nodes_of_node found) value rfl) (calm nofun)
  | comparison =>
      cases concludes
      exact iff_of_true trivial (calm nofun)
  | passage =>
      cases concludes
      refine iff_of_true (finite _ ?_) (calm nofun)
      rw [← sources_eq]
      exact List.mem_cons_self
  | fold =>
      rw [Reading.operands] at sources_eq
      cases concludes with
      | fold applied _ _ =>
          rw [sources_eq] at applied
          have gathers : formula.Gathers inputs other _ _ := ⟨found, gathered⟩
          rw [gathers.overruns_iff]
          exact Operator.isFinite_iff_of_apply applied (List.forall_mem_map.mpr finite)

end Lines

namespace Ledger

variable {memo : List (String × Number)} {steps : List Step}

theorem isFinite_lines_iff (ledger : Ledger formula inputs memo steps) :
    (∀ step ∈ steps, step.value.IsFinite) ↔ ∀ entry ∈ memo, entry.2.IsFinite := by
  induction ledger with
  | nil => exact iff_of_true nofun nofun
  | snoc _ _ _ _ concluded induction =>
      have line_iff := (Reading.concludes_of_conclude concluded).isFinite_line_iff
      rw [List.forall_mem_append, List.forall_mem_singleton, List.forall_mem_cons, induction,
        line_iff, and_comm]

/-- The values are finite if and only if no operation among the nodes overruns. -/
theorem isFinite_iff (ledger : Ledger formula inputs memo steps)
    (constants : formula.FiniteConstants) (metrics : inputs.AreFinite) :
    (∀ entry ∈ memo, entry.2.IsFinite) ↔ ∀ entry ∈ memo, ¬formula.Overruns inputs entry.1 := by
  induction ledger with
  | nil => exact iff_of_true nofun nofun
  | @snoc memo steps id reading value step ledger unfinished read known concluded induction =>
      rw [List.forall_mem_cons, List.forall_mem_cons, ← induction]
      refine and_congr_left fun memo_finite => ?_
      rw [Formula.operands_eq_sources read] at known
      have finite : ∀ source ∈ formula.sources id, (amountIn memo source).IsFinite := by
        intro source member
        exact memo_finite _ (Association.mem_of_lookup (lookup_amountIn (known source member)))
      exact (Reading.concludes_of_conclude concluded).isFinite_iff constants metrics read
        (ledger.mapM_unshared known (List.forall_mem_singleton.mpr unfinished)) finite

theorem refuses_of_overflow (ledger : Ledger formula inputs memo steps) {id blamed : String}
    {reading : Reading String} (unfinished : memo.lookup id = none)
    (read : formula.readingOf id = .ok reading)
    (known : ∀ source ∈ reading.operands, ∃ amount, memo.lookup source = some amount)
    (concluded : (reading.map (amountIn memo)).conclude inputs id =
      .error (.failed (.overflow blamed))) : formula.Refuses inputs blamed := by
  cases Reading.node?_of_conclude_failed concluded
  rcases Reading.exists_cause_of_conclude_failed concluded with
    ⟨operator, operands, fold, applied⟩ | ⟨_, _, _, _, _, unsupported⟩
  · obtain ⟨found, rfl⟩ := Formula.operation_of_fold read fold
    rw [Formula.operands_eq_sources read] at known
    have gathered := ledger.mapM_unshared known (List.forall_mem_singleton.mpr unfinished)
    exact ⟨operator, _, ⟨found, gathered⟩, Operator.apply_eq_overflow_iff.mp applied⟩
  · cases unsupported

end Ledger

theorem Formula.refuses_of_run {id : String}
    (fails : (formula.run inputs).1 = .error (.failed (.overflow id))) :
    formula.Refuses inputs id := by
  have ran : formula.run inputs = (.error (.failed (.overflow id)), (formula.run inputs).2) :=
    Prod.ext fails rfl
  rcases halts_of_run ran with ⟨failure, unresolved, same, _⟩ | ⟨result, _, halts⟩
  · cases same
    cases missing_of_unresolved unresolved
  · cases halts.stuck .nil with
    | unreadable read =>
        rcases absent_or_readsAs_of_readingOf read with ⟨_, same⟩ | ⟨⟨_, _⟩, _, reads⟩
        · cases same
        · cases reads
    | inconclusive _ ledger unfinished read known concluded =>
        exact ledger.refuses_of_overflow unfinished read known concluded

namespace Evaluation

variable {evaluation : Evaluation}

theorem isFinite_value (returns : formula.evaluate inputs = .ok evaluation)
    (finite : ∀ step ∈ evaluation.steps, step.value.IsFinite) : evaluation.value.IsFinite := by
  rcases Formula.run_of_evaluate returns with
    ⟨value, progress, ran, rfl⟩ | ⟨failure, progress, ran, rfl⟩
  · obtain ⟨result, _, settles, found⟩ := Formula.settles_of_run ran
    have values_finite := (settles.ledger .nil).isFinite_lines_iff.mp finite
    exact values_finite _ (Association.mem_of_lookup found)
  · trivial

/-- An evaluation on finite constants and metrics is finite, in its amount and every step, if and
only if no line is about an operation that overruns.  An operation that refuses its operands fails
with an overflow, and no evaluation that reaches it succeeds; nothing else is reported as one. -/
theorem finite_iff_no_overrun (constants : formula.FiniteConstants) (metrics : inputs.AreFinite)
    (returns : formula.evaluate inputs = .ok evaluation) :
    (evaluation.value.IsFinite ∧ (∀ step ∈ evaluation.steps, step.value.IsFinite) ↔
        ∀ line ∈ evaluation.lines, ¬formula.Overruns inputs line.node) ∧
      (∀ id, formula.Refuses inputs id →
        formula.unshared inputs [] id = .error (.failed (.overflow id)) ∧
          ∀ result, formula.resultNode = .ok result → formula.Reaches result id →
            evaluation.succeeded = false) ∧
      ∀ id, (formula.run inputs).1 = .error (.failed (.overflow id)) →
        formula.Refuses inputs id := by
  refine ⟨?_, ?_, fun id => Formula.refuses_of_run⟩
  · obtain ⟨memo, steps, ledger, lines_eq, steps_eq⟩ := exists_ledger returns
    rw [and_iff_right_of_imp (isFinite_value returns), lines_eq]
    calc (∀ step ∈ evaluation.steps, step.value.IsFinite)
        ↔ ∀ step ∈ steps, step.value.IsFinite := by
          rcases steps_eq with steps_eq | ⟨node, message, steps_eq⟩
          · rw [steps_eq]
          · rw [steps_eq, List.forall_mem_append, List.forall_mem_singleton, and_iff_left]
            trivial
      _ ↔ ∀ entry ∈ memo, entry.2.IsFinite := ledger.isFinite_lines_iff
      _ ↔ ∀ entry ∈ memo, ¬formula.Overruns inputs entry.1 := ledger.isFinite_iff constants metrics
      _ ↔ ∀ id ∈ memo.map Prod.fst, ¬formula.Overruns inputs id := by rw [List.forall_mem_map]
      _ ↔ ∀ id ∈ steps.map Step.node, ¬formula.Overruns inputs id := by
          simp only [ledger.mem_nodes_iff]
      _ ↔ ∀ line ∈ steps, ¬formula.Overruns inputs line.node := by rw [List.forall_mem_map]
  · refine fun id refuses => ⟨refuses.unshared_eq, fun result resolved reach => ?_⟩
    rw [Bool.eq_false_iff]
    intro succeeded
    obtain ⟨memo, steps, ledger, finished⟩ :=
      exists_ledger_of_reaches returns succeeded resolved reach
    obtain ⟨value, found⟩ := (Association.mem_keys_iff memo id).mp finished
    have unshared_eq : formula.unshared inputs [] id = .ok value :=
      ledger.unshared_eq found (by nofun)
    rw [refuses.unshared_eq] at unshared_eq
    cases unshared_eq

end Evaluation

namespace Formula

/-- A formula that adds a constant of about `10 ^ 308` to itself. -/
def doubled : Formula where
  id := "doubled"
  name := "Doubled"
  nodes := [⟨"huge", .constant (.real (.finite false ⟨9214871658872686752, by decide⟩))⟩,
    ⟨"total", .operation .sum⟩, ⟨"amount", .result⟩]
  connections := [⟨"c1", "huge", "total", outputSlot, inputSlot⟩,
    ⟨"c2", "huge", "total", outputSlot, inputSlot⟩,
    ⟨"c3", "total", "amount", outputSlot, inputSlot⟩]
  result? := none
  distinct := by decide

theorem doubled_finiteConstants : doubled.FiniteConstants := by
  intro node node_mem value constant
  simp only [doubled, List.mem_cons, List.not_mem_nil, or_false] at node_mem
  rcases node_mem with rfl | rfl | rfl <;> cases constant
  exact ⟨_, _, rfl⟩

theorem exists_doubled : ∃ evaluation, doubled.evaluate [] = .ok evaluation ∧
    evaluation.succeeded = true ∧ evaluation.value = .real (.infinite false) := by
  have amount : (doubled.evaluate []).map (fun evaluation =>
      (evaluation.succeeded, evaluation.value)) = .ok (true, .real (.infinite false)) := by
    decide +kernel
  cases returns : doubled.evaluate [] with
  | error overflow =>
      rw [returns] at amount
      cases amount
  | ok evaluation =>
      rw [returns] at amount
      injection amount with both
      injection both with succeeded value_eq
      exact ⟨evaluation, rfl, succeeded, value_eq⟩

/-- The sum is too large, so some line is about an operation that overruns. -/
theorem doubled_overruns :
    doubled.FiniteConstants ∧ Inputs.AreFinite [] ∧ ∃ evaluation,
      doubled.evaluate [] = .ok evaluation ∧
        ∃ line ∈ evaluation.lines, doubled.Overruns [] line.node := by
  obtain ⟨evaluation, returns, _, value_eq⟩ := exists_doubled
  have metrics : Inputs.AreFinite [] := nofun
  refine ⟨doubled_finiteConstants, metrics, evaluation, returns, ?_⟩
  by_contra calm
  have finite := (Evaluation.finite_iff_no_overrun doubled_finiteConstants metrics returns).1.mpr
    fun line line_mem overruns => calm ⟨line, line_mem, overruns⟩
  rw [value_eq] at finite
  exact Binary64.not_isFinite_infinite false finite.1

/-- On finite data the evaluation succeeds with an infinite amount. -/
theorem doubled_succeeds_infinite :
    doubled.FiniteConstants ∧ Inputs.AreFinite [] ∧ ∃ evaluation,
      doubled.evaluate [] = .ok evaluation ∧ evaluation.succeeded = true ∧
        ¬evaluation.value.IsFinite := by
  obtain ⟨evaluation, returns, succeeded, value_eq⟩ := exists_doubled
  refine ⟨doubled_finiteConstants, nofun, evaluation, returns, succeeded, ?_⟩
  rw [value_eq]
  exact Binary64.not_isFinite_infinite false

end Formula
end PayGraph
