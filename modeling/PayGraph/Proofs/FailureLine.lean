import PayGraph.Proofs.Prediction
import PayGraph.Proofs.TraceOrder

/-!
# The line of a failure

A successful evaluation has no line of a failure.  A failed one ends with the only such line, which
tells the failure and names the node that it is about.  The result node reaches this node, and it is
still unfinished when the failure occurs, so no line before is about it.
-/

namespace PayGraph

variable {inputs : Inputs} {formula : Formula}

namespace Operator

theorem node?_of_apply_error {node : String} {operator : Operator} {operands : List Number}
    {failure : Failure} (applied : operator.apply node operands = .error failure) :
    failure.node? = some node := by
  rcases cause_of_apply_error applied with ⟨_, _, rfl⟩ | rfl | rfl | ⟨_, rfl⟩ <;> rfl

end Operator

theorem Reading.node?_of_conclude_failed {values : Reading Number} {id : String} {failure : Failure}
    (concluded : values.conclude inputs id = .error (.failed failure)) :
    failure.node? = some id := by
  rcases exists_cause_of_conclude_failed concluded with ⟨_, _, _, applied⟩ | ⟨_, _, _, _, _, rfl⟩
  · exact Operator.node?_of_apply_error applied
  · rfl

namespace Formula

variable {id : String} {failure : Failure}

theorem node?_of_readingOf_error (read : formula.readingOf id = .error failure) :
    failure.node? = some id := by
  rcases absent_or_readsAs_of_readingOf read with ⟨_, rfl⟩ | ⟨⟨_, _⟩, _, reads⟩
  · rfl
  · cases reads <;> rfl

theorem Blames.node?_eq (blame : formula.Blames inputs id failure) : failure.node? = some id := by
  cases blame with
  | returned => rfl
  | unreadable read => exact node?_of_readingOf_error read
  | inconclusive _ concluded => exact Reading.node?_of_conclude_failed concluded

theorem reaches_of_fails (fails : (formula.run inputs).1 = .error (.failed failure))
    (about : failure.node? = some id) :
    ∃ result, formula.resultNode = .ok result ∧ formula.Reaches result id := by
  rcases blames_of_run fails with unresolved | rfl | ⟨result, blamed, resolved, reach, blame⟩
  · cases missing_of_unresolved unresolved
    cases about
  · cases about
  · rw [blame.node?_eq] at about
    cases about
    exact ⟨result, resolved, reach⟩

end Formula

/-- The node that a failure is about is unfinished when the execution halts. -/
theorem Halts.unfinished {progress after : Progress} {ids : List String} {failure : Failure}
    (halts : Halts formula inputs progress ids (.failed failure) after) {blamed : String}
    (about : failure.node? = some blamed) : after.memo.lookup blamed = none := by
  generalize stopped : Halt.failed failure = halt at halts
  induction halts with
  | exhausted =>
      cases stopped
      cases about
  | returned _ unfinished _ =>
      cases stopped
      cases about
      exact unfinished
  | unreadable _ fresh read =>
      cases stopped
      rw [Formula.node?_of_readingOf_error read] at about
      cases about
      exact fresh.unfinished
  | nested _ _ _ _ induction => exact induction stopped
  | inconclusive _ fresh _ operands concluded =>
      cases stopped
      rw [Reading.node?_of_conclude_failed concluded] at about
      cases about
      -- The operands are read while the node itself is active, so none of them finishes it.
      rw [operands.lookup_of_active List.mem_cons_self]
      exact fresh.unfinished
  | later _ _ induction => exact induction stopped

/-- A failed run leaves lines behind that are all ordinary, and none about the node to blame. -/
theorem Formula.lines_of_fails {failure : Failure} {progress : Progress}
    (ran : formula.run inputs = (.error (.failed failure), progress)) :
    ∀ step ∈ progress.trace.steps, step.isError = false ∧ failure.node? ≠ some step.node := by
  intro step step_mem
  rcases halts_of_run ran with ⟨_, _, _, rfl⟩ | ⟨id, _, halts⟩
  · cases step_mem
  · have ledger := halts.ledger .nil
    refine ⟨ledger.ordinary step step_mem, fun about => ?_⟩
    have listed := (ledger.mem_nodes_iff step.node).mp (List.mem_map_of_mem step_mem)
    obtain ⟨value, found⟩ := (Association.mem_keys_iff _ _).mp listed
    rw [halts.unfinished about] at found
    cases found

namespace Evaluation

/-- A failure ends an evaluation: the amount is zero, and after the ordinary lines in front there is
one that tells the failure and stands under a node. -/
structure EndsWith (formula : Formula) (evaluation : Evaluation) (failure : Failure)
    (front : List Step) (node : String) : Prop where
  /-- The failure is what the evaluation reports. -/
  error : evaluation.error? = some failure.message
  /-- There is no amount. -/
  value : evaluation.value = .integer 0
  /-- The last line tells the failure. -/
  steps : evaluation.steps = front ++ [⟨node, "Error: " ++ failure.message, .integer 0, true⟩]
  /-- It is the only such line. -/
  ordinary : ∀ step ∈ front, step.isError = false
  /-- A failure about a node stands under it, is reached by the result node and left unfinished. -/
  about : ∀ id, failure.node? = some id → id ≠ "" →
    node = id ∧ (∃ result, formula.resultNode = .ok result ∧ formula.Reaches result id) ∧
      ∀ step ∈ front, step.node ≠ id
  /-- A failure about no node stands under the general word. -/
  unattached : (∀ id, failure.node? = some id → id = "") → node = "error"

theorem node_of_failure (failure : Failure) :
    (∀ id, failure.node? = some id → id ≠ "" →
      (failure.node?.filter (· ≠ "")).getD failureNode = id) ∧
    ((∀ id, failure.node? = some id → id = "") →
      (failure.node?.filter (· ≠ "")).getD failureNode = "error") := by
  cases failure.node? with
  | none => exact ⟨nofun, fun _ => rfl⟩
  | some id =>
      constructor
      · intro other same named
        cases same
        rw [Option.filter_some, if_pos (decide_eq_true named), Option.getD_some]
      · intro unnamed
        rw [unnamed id rfl]
        rfl

theorem endsWith_of_fails {failure : Failure} {progress : Progress}
    (ran : formula.run inputs = (.error (.failed failure), progress)) :
    ∃ node, EndsWith formula (.ofFailure progress.trace failure) failure progress.trace.steps
      node := by
  have lines := Formula.lines_of_fails ran
  obtain ⟨named, unnamed⟩ := node_of_failure failure
  refine ⟨_, rfl, rfl, rfl, fun step member => (lines step member).1, ?_, unnamed⟩
  intro id about nonempty
  refine ⟨named id about nonempty, Formula.reaches_of_fails (congrArg Prod.fst ran) about, ?_⟩
  rintro step member rfl
  exact (lines step member).2 about

/-- An evaluation without an error has no line of a failure.  One with an error ends with exactly
one, which tells the failure of the run. -/
theorem failure_told_last {evaluation : Evaluation}
    (returns : formula.evaluate inputs = .ok evaluation) :
    (evaluation.error? = none → ∀ step ∈ evaluation.steps, step.isError = false) ∧
      ∀ message, evaluation.error? = some message →
        ∃ failure front node, (formula.run inputs).1 = .error (.failed failure) ∧
          failure.message = message ∧ EndsWith formula evaluation failure front node := by
  rcases Formula.run_of_evaluate returns with
    ⟨value, progress, ran, rfl⟩ | ⟨failure, progress, ran, rfl⟩
  · obtain ⟨result, _, settles, _⟩ := Formula.settles_of_run ran
    exact ⟨fun _ => (settles.ledger .nil).ordinary, nofun⟩
  · refine ⟨nofun, fun message reported => ?_⟩
    cases reported
    obtain ⟨node, ends⟩ := endsWith_of_fails ran
    exact ⟨failure, _, node, congrArg Prod.fst ran, rfl, ends⟩

/-- The looping total is read again below its bonus, when only the classes are done. -/
theorem looping_told_last :
    ∃ evaluation front, Formula.looping.evaluate [] = .ok evaluation ∧
      evaluation.steps =
        front ++ [⟨"total", "Error: Ciclo detectado en el nodo total", .integer 0, true⟩] ∧
      (∀ step ∈ front, step.node ≠ "total") ∧ Formula.looping.Reaches "amount" "total" := by
  have returns : Formula.looping.evaluate [] = .ok (.ofFailure
      ⟨[.ordinary "classes" "Variable clases: 0" (.integer 0)]⟩ (.cycle "total")) := by
    decide +kernel
  obtain ⟨failure, front, node, ran, _, ends⟩ := (failure_told_last returns).2 _ rfl
  have failure_eq : (Formula.looping.run []).1 = .error (.failed (.cycle "total")) := by
    decide +kernel
  rw [failure_eq] at ran
  cases ran
  obtain ⟨rfl, ⟨result, resolved, reach⟩, apart⟩ := ends.about "total" rfl (by decide)
  have result_eq : Formula.looping.resultNode = .ok "amount" := by decide
  rw [result_eq] at resolved
  cases resolved
  exact ⟨_, front, returns, ends.steps, apart, reach⟩

end Evaluation
end PayGraph
