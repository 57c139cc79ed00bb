import PayGraph.Proofs.Recomputation
import PayGraph.Proofs.TraceOrder
import PayGraph.Proofs.Unshared

/-!
# Lines that stand alone

A line of a trace does not depend on what the evaluation did before it.  Evaluating its node alone
gives the value that the line passes on, and every line on the way is one of the trace.  This holds
because two ledgers of a formula agree on the nodes that they share, whatever the order in which
they were filled.
-/

namespace PayGraph

variable {formula other : Formula} {inputs : Inputs}

namespace Ledger

variable {memo others : List (String × Number)} {steps lines : List Step}

/-- A ledger knows a formula only by what its nodes read. -/
theorem congr (same : ∀ id, other.readingOf id = formula.readingOf id)
    (ledger : Ledger formula inputs memo steps) : Ledger other inputs memo steps := by
  induction ledger with
  | nil => exact .nil
  | @snoc memo steps id reading value step _ unfinished read known concluded induction =>
      rw [← same id] at read
      exact .snoc induction unfinished read known concluded

/-- The memo holds what the line of a node passes on. -/
theorem lookup_of_line (ledger : Ledger formula inputs memo steps) {step : Step}
    (step_mem : step ∈ steps) : memo.lookup step.node = some (formula.passedOn step) := by
  induction ledger with
  | nil => cases step_mem
  | @snoc memo steps id reading value newest _ unfinished read _ concluded induction =>
      have concludes := Reading.concludes_of_conclude concluded
      rcases List.mem_append.mp step_mem with old | new
      · have found := induction old
        have differs : step.node ≠ id := by
          intro same
          rw [same, unfinished] at found
          cases found
        rw [List.lookup_cons, beq_eq_false_iff_ne.mpr differs]
        exact found
      · rw [List.mem_singleton.mp new, concludes.node_eq, List.lookup_cons_self,
          Formula.passedOn_eq_of_concludes read concludes]

theorem amountIn_eq (ledger : Ledger formula inputs memo steps)
    (second : Ledger formula inputs others lines) {id : String}
    (known : ∃ value, memo.lookup id = some value)
    (second_known : ∃ value, others.lookup id = some value) :
    amountIn others id = amountIn memo id := by
  have unshared : formula.unshared inputs [] id = .ok (amountIn memo id) :=
    ledger.unshared_eq (lookup_amountIn known) (by nofun)
  rw [second.unshared_eq (lookup_amountIn second_known) (by nofun)] at unshared
  exact Except.ok.inj unshared

/-- Two ledgers hold the same line about a node that they share. -/
theorem line_unique (ledger : Ledger formula inputs memo steps)
    (second : Ledger formula inputs others lines) {step line : Step} (step_mem : step ∈ steps)
    (line_mem : line ∈ lines) (same_node : line.node = step.node) : line = step := by
  obtain ⟨earlier, later, rfl⟩ := List.append_of_mem step_mem
  obtain ⟨before, after, rfl⟩ := List.append_of_mem line_mem
  obtain ⟨known, reading, value, known_ledger, read, sources_known, concludes⟩ := ledger.split
  obtain ⟨found, again, amount, found_ledger, read_again, sources_found, concludes_again⟩ :=
    second.split
  rw [same_node] at read_again concludes_again
  rw [read] at read_again
  cases read_again
  have same_values : reading.map (amountIn found) = reading.map (amountIn known) :=
    Reading.map_congr fun source member =>
      known_ledger.amountIn_eq found_ledger (sources_known source member)
        (sources_found source member)
  rw [same_values] at concludes_again
  exact (concludes.unique concludes_again).2

/-- A settled execution of a finished node from nothing records lines of the ledger only. -/
theorem mem_of_settles (ledger : Ledger formula inputs memo steps) {id : String}
    {progress : Progress} (settles : Settles formula inputs {} [id] progress)
    (finished : ∃ value, memo.lookup id = some value) {line : Step}
    (line_mem : line ∈ progress.trace.steps) : line ∈ steps := by
  rw [← Association.mem_keys_iff] at finished
  have reach : formula.Reaches id line.node :=
    (Evaluation.mem_nodes_iff_reaches settles line.node).mp (List.mem_map_of_mem line_mem)
  -- Whatever the node reaches was finished before it.
  have shared := ledger.layered.mem_of_reaches finished reach
  rw [← ledger.mem_nodes_iff] at shared
  obtain ⟨original, original_mem, same_node⟩ := List.mem_map.mp shared
  rw [ledger.line_unique (settles.ledger .nil) original_mem line_mem same_node.symm]
  exact original_mem

end Ledger

namespace Formula

/-- The formula with a node of choice as its explicit result node. -/
def focus (formula : Formula) (id : String) : Formula :=
  { formula with result? := some id }

theorem readingOf_focus (formula : Formula) (id source : String) :
    (formula.focus id).readingOf source = formula.readingOf source := rfl

theorem resultNode_of_named {result : String} (explicit : formula.result? = some result)
    (named : result ≠ "") : formula.resultNode = .ok result := by
  rw [resultNode, explicitResult?, explicit, Option.filter_some_pos (by simpa using named)]

theorem resultNode_focus {id : String} (named : id ≠ "") :
    (formula.focus id).resultNode = .ok id :=
  resultNode_of_named rfl named

/-- A formula comes to the value that its result node has without a memo, if the frames suffice. -/
theorem evaluate_of_unshared {result : String} {value : Number}
    (resolved : formula.resultNode = .ok result)
    (unshared_eq : formula.unshared inputs [] result = .ok value)
    (shallow : (formula.run inputs).1 ≠ .error (.failed .tooDeep)) :
    ∃ progress, formula.evaluate inputs = .ok ⟨value, progress.trace.steps, none⟩ ∧
      Settles formula inputs {} [result] progress := by
  have agree := run_eq_unsharedAmount shallow
  rw [unsharedAmount, resolved] at agree
  simp only [unshared_eq] at agree
  cases ran : formula.run inputs with
  | mk outcome progress =>
      rw [ran] at agree
      cases agree
      obtain ⟨start, start_resolved, settles, _⟩ := settles_of_run ran
      rw [resolved] at start_resolved
      cases start_resolved
      exact ⟨progress, by rw [evaluate, ran], settles⟩

end Formula

namespace Evaluation

variable {evaluation : Evaluation} {step : Step}

/-- The node of a line, evaluated alone, succeeds with the value that the line passes on, and every
step on the way is one of the trace; only the frames may run out. -/
theorem line_stands_alone (returns : formula.evaluate inputs = .ok evaluation)
    (step_mem : step ∈ evaluation.steps) (ordinary : step.isError = false)
    (named : step.node ≠ "")
    (shallow : ((formula.focus step.node).run inputs).1 ≠ .error (.failed .tooDeep)) :
    ∃ alone, (formula.focus step.node).evaluate inputs = .ok alone ∧ alone.succeeded = true ∧
      alone.value = formula.passedOn step ∧ ∀ line ∈ alone.steps, line ∈ evaluation.steps := by
  obtain ⟨memo, steps, ledger, lines_eq, _⟩ := exists_ledger returns
  have line_mem : step ∈ steps := by
    rw [← lines_eq, lines, List.mem_filter, ordinary]
    exact ⟨step_mem, rfl⟩
  have found := ledger.lookup_of_line line_mem
  have focused := ledger.congr (formula.readingOf_focus step.node)
  obtain ⟨progress, evaluated, settles⟩ := Formula.evaluate_of_unshared
    (Formula.resultNode_focus named)
    (focused.unshared_eq found fun id member => absurd member List.not_mem_nil) shallow
  refine ⟨_, evaluated, rfl, rfl, fun line alone_mem => ?_⟩
  have original_mem := focused.mem_of_settles settles ⟨_, found⟩ alone_mem
  rw [← lines_eq] at original_mem
  exact List.mem_of_mem_filter original_mem

/-- The comparison in front of a failed division comes to one when it is evaluated alone. -/
theorem share_open_alone :
    ∃ failed alone, Formula.share.evaluate [("reservaciones", .integer 8)] = .ok failed ∧
      failed.succeeded = false ∧
      (Formula.share.focus "open").evaluate [("reservaciones", .integer 8)] = .ok alone ∧
      alone.succeeded = true ∧ alone.value = .integer 1 ∧
      ∀ line ∈ alone.steps, line ∈ failed.steps := by
  have returns : Formula.share.evaluate [("reservaciones", .integer 8)] = .ok (.ofFailure ⟨[
      .ordinary "reserved" "Variable reservaciones: 8" (.integer 8),
      .ordinary "goal" "Número constante: 20" (.integer 20),
      .ordinary "open" "Comparación: 8 < 20 = 1" (.boolean true),
      .ordinary "teachers" "Variable profesores: 0" (.integer 0)]⟩ (.divisionByZero "each")) := by
    decide +kernel
  have shallow : ((Formula.share.focus "open").run [("reservaciones", .integer 8)]).1 ≠
      .error (.failed .tooDeep) := by
    decide +kernel
  obtain ⟨alone, evaluated, succeeded, value_eq, lines_mem⟩ := line_stands_alone returns
    (show .ordinary "open" "Comparación: 8 < 20 = 1" (.boolean true) ∈ _ by decide) rfl (by decide)
    shallow
  exact ⟨_, alone, returns, rfl, evaluated, succeeded, value_eq, lines_mem⟩

end Evaluation
end PayGraph
