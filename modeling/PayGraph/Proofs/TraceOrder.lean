import Mathlib.Data.List.Nodup
import PayGraph.Proofs.Ledger

/-!
# The order of a trace

The lines of a trace are about different nodes, and the line of a node stands after the lines of its
sources.  If the evaluation succeeds, its lines are about exactly the nodes that the result node
reaches, and the last of them holds the amount.
-/

namespace PayGraph

variable {formula : Formula} {inputs : Inputs}

/-- Whatever an execution finishes is reached from the nodes that it reads. -/
theorem Settles.reached {progress after : Progress} {ids : List String}
    (settles : Settles formula inputs progress ids after) {finished : String}
    (member : finished ∈ after.memo.map Prod.fst) :
    finished ∈ progress.memo.map Prod.fst ∨ ∃ id ∈ ids, formula.Reaches id finished := by
  induction settles with
  | nil => exact Or.inl member
  | known _ _ induction =>
      rcases induction member with old | ⟨id, id_mem, reach⟩
      · exact Or.inl old
      · exact Or.inr ⟨id, List.mem_cons_of_mem _ id_mem, reach⟩
  | @finished progress within after id rest reading value step _ read _ _ _ operands_induction
      rest_induction =>
      rcases rest_induction member with before_rest | ⟨other, other_mem, reach⟩
      · rcases List.mem_cons.mp before_rest with rfl | before_rest
        · exact Or.inr ⟨_, List.mem_cons_self, .refl⟩
        · rcases operands_induction before_rest with old | ⟨source, source_mem, reach⟩
          · exact Or.inl old
          · have followed : formula.Follows id source :=
              (Formula.follows_iff read source).mpr source_mem
            exact Or.inr ⟨id, List.mem_cons_self, .head followed reach⟩
      · exact Or.inr ⟨other, List.mem_cons_of_mem _ other_mem, reach⟩

/-- An execution that reads one unfinished node ends with its line. -/
theorem Settles.last_line {progress after : Progress} {id : String}
    (settles : Settles formula inputs progress [id] after)
    (unfinished : progress.memo.lookup id = none) :
    ∃ front last value, after.trace.steps = front ++ [last] ∧ last.node = id ∧
      after.memo.lookup id = some value ∧ formula.passedOn last = value := by
  cases settles with
  | known found _ =>
      rw [unfinished] at found
      cases found
  | @finished _ within _ _ _ _ value step _ read _ concluded rest =>
      cases rest
      have concludes := Reading.concludes_of_conclude concluded
      exact ⟨within.trace.steps, step, value, rfl, concludes.node_eq, List.lookup_cons_self,
        Formula.passedOn_eq_of_concludes read concludes⟩

namespace Ledger

variable {memo : List (String × Number)} {steps : List Step}

theorem nodup_nodes (ledger : Ledger formula inputs memo steps) :
    (steps.map Step.node).Nodup := by
  rw [ledger.nodes_eq, List.nodup_reverse]
  exact ledger.layered.nodup

theorem mem_nodes_iff (ledger : Ledger formula inputs memo steps) (id : String) :
    id ∈ steps.map Step.node ↔ id ∈ memo.map Prod.fst := by
  rw [ledger.nodes_eq, List.mem_reverse]

end Ledger

namespace Evaluation

variable {evaluation : Evaluation}

theorem exists_earlier_line {earlier later : List Step} {step : Step} {source : String}
    (returns : formula.evaluate inputs = .ok evaluation)
    (listed : evaluation.steps = earlier ++ step :: later) (ordinary : step.isError = false)
    (followed : formula.Follows step.node source) :
    ∃ line ∈ earlier, line.node = source ∧ line.isError = false := by
  obtain ⟨known, reading, _, ledger, read, sources_known, _⟩ := split returns listed ordinary
  have found := sources_known source ((Formula.follows_iff read source).mp followed)
  rw [← Association.mem_keys_iff, ← ledger.mem_nodes_iff] at found
  obtain ⟨line, line_mem, rfl⟩ := List.mem_map.mp found
  exact ⟨line, line_mem, rfl, ledger.ordinary line line_mem⟩

/-- A successful evaluation settles its result node from nothing. -/
theorem settles_of_succeeded (returns : formula.evaluate inputs = .ok evaluation)
    (succeeded : evaluation.succeeded = true) :
    ∃ result progress, formula.resultNode = .ok result ∧
      Settles formula inputs {} [result] progress ∧
      evaluation.steps = progress.trace.steps ∧
      progress.memo.lookup result = some evaluation.value := by
  rcases Formula.run_of_evaluate returns with
    ⟨value, progress, ran, rfl⟩ | ⟨failure, progress, ran, rfl⟩
  · obtain ⟨result, resolved, settles, found⟩ := Formula.settles_of_run ran
    exact ⟨result, progress, resolved, settles, rfl, found⟩
  · cases succeeded

/-- The lines of a successful evaluation are about the nodes that the result node reaches. -/
theorem mem_nodes_iff_reaches {result : String} {progress : Progress}
    (settles : Settles formula inputs {} [result] progress) (id : String) :
    id ∈ progress.trace.steps.map Step.node ↔ formula.Reaches result id := by
  have ledger := settles.ledger .nil
  rw [ledger.mem_nodes_iff]
  constructor
  · intro member
    rcases settles.reached member with absent | ⟨start, start_mem, reach⟩
    · cases absent
    · rw [List.mem_singleton.mp start_mem] at reach
      exact reach
  · intro reach
    have result_finished := settles.finished_all result List.mem_cons_self
    rw [← Association.mem_keys_iff] at result_finished
    exact ledger.layered.mem_of_reaches result_finished reach

/-- The lines of nodes are about different nodes, each after the lines of its sources.  On success
they are about exactly the nodes that the result node reaches, and the last of them is about the
result node and passes on the amount. -/
theorem trace_in_order (returns : formula.evaluate inputs = .ok evaluation) :
    (evaluation.lines.map Step.node).Nodup ∧
      (∀ earlier step later, evaluation.steps = earlier ++ step :: later → step.isError = false →
        ∀ source, formula.Follows step.node source →
          ∃ line ∈ earlier, line.node = source ∧ line.isError = false) ∧
      (evaluation.succeeded = true →
        ∃ result front last, formula.resultNode = .ok result ∧
          (evaluation.steps.map Step.node).Nodup ∧
          (∀ id, id ∈ evaluation.steps.map Step.node ↔ formula.Reaches result id) ∧
          evaluation.steps = front ++ [last] ∧ last.node = result ∧
          formula.passedOn last = evaluation.value) := by
  refine ⟨?_, ?_, ?_⟩
  · obtain ⟨memo, steps, ledger, lines_eq, _⟩ := exists_ledger returns
    rw [lines_eq]
    exact ledger.nodup_nodes
  · intro earlier step later listed ordinary source followed
    exact exists_earlier_line returns listed ordinary followed
  · intro succeeded
    obtain ⟨result, progress, resolved, settles, steps_eq, found⟩ :=
      settles_of_succeeded returns succeeded
    obtain ⟨front, last, value, last_eq, last_node, last_found, passed⟩ :=
      settles.last_line rfl
    rw [found] at last_found
    cases last_found
    rw [steps_eq]
    exact ⟨result, front, last, resolved, (settles.ledger .nil).nodup_nodes,
      mem_nodes_iff_reaches settles, last_eq, last_node, passed⟩

/-- A bonus for each reservation of a class that is full, next to a node that counts for nothing. -/
def bonus : Formula where
  id := "bonus"
  name := "Bonus"
  nodes := [⟨"reserved", .variable "reservaciones"⟩, ⟨"goal", .constant (.integer 20)⟩,
    ⟨"full", .comparator .greaterThan⟩, ⟨"pay", .operation .multiplication⟩,
    ⟨"spare", .constant (.integer 7)⟩, ⟨"amount", .result⟩]
  connections := [⟨"c1", "reserved", "pay", outputSlot, inputSlot⟩,
    ⟨"c2", "full", "pay", outputSlot, inputSlot⟩,
    ⟨"c3", "reserved", "full", outputSlot, leftSlot⟩,
    ⟨"c4", "goal", "full", outputSlot, rightSlot⟩,
    ⟨"c5", "pay", "amount", outputSlot, inputSlot⟩]
  result? := none
  distinct := by decide

/-- The trace of the bonus shows which nodes the amount rests on. -/
theorem bonus_in_order :
    bonus.Reaches "amount" "goal" ∧ ¬bonus.Reaches "amount" "spare" := by
  have returns : bonus.evaluate [("reservaciones", .integer 25)] = .ok ⟨.integer 25, [
      .ordinary "reserved" "Variable reservaciones: 25" (.integer 25),
      .ordinary "goal" "Número constante: 20" (.integer 20),
      .ordinary "full" "Comparación: 25 > 20 = 1" (.boolean true),
      .ordinary "pay" "Operación multiplicacion: [25, 1] = 25" (.integer 25),
      .ordinary "amount" "Resultado final: 25" (.integer 25)], none⟩ := by
    decide +kernel
  obtain ⟨result, _, _, resolved, _, nodes_iff, _⟩ := (trace_in_order returns).2.2 rfl
  have result_eq : bonus.resultNode = .ok "amount" := by decide
  rw [result_eq] at resolved
  cases resolved
  rw [← nodes_iff, ← nodes_iff]
  decide

end Evaluation
end PayGraph
