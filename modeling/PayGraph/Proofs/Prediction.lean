import PayGraph.Proofs.Blame
import PayGraph.Proofs.Dependencies
import PayGraph.Validation

/-!
# Predicted failures

The static checks look at the whole formula and the evaluation only at what it follows, yet each
failure of a structural sort has an issue that is an error about the same node.  So a formula
without errors fails in none of these ways, whatever its inputs.
-/

namespace PayGraph

/-- The failure is about the structure of the formula and not about the values of its nodes. -/
def Failure.isStructural : Failure → Bool
  | .missingResult | .unknownNode _ | .missingComparands _ | .missingResultInput _ | .cycle _
  | .unsupported _ _ => true
  | .insufficientOperands _ _ _ _ | .divisionByZero _ | .overflow _ | .tooDeep => false

namespace Formula

/-- Some issue of the formula is an error about a node. -/
def Reports (formula : Formula) (node : String) : Prop :=
  ∃ message, Issue.error node message ∈ formula.issues

/-- The issues of the formula account for a structural failure: it lacks a result node, has an error
about the same node, or has an error about a cycle and the node is its own ancestor. -/
def Predicts (formula : Formula) : Failure → Prop
  | .missingResult => ⟨.error, none, Failure.missingResult.message⟩ ∈ formula.issues
  | .unknownNode node | .missingComparands node | .missingResultInput node
  | .unsupported node _ => formula.Reports node
  | .cycle node =>
    (∃ cycle, (DependencyGraph.ofFormula formula).findCycle = some cycle ∧
      ⟨.error, cycle.head?, "Ciclo detectado: " ++ " -> ".intercalate cycle⟩ ∈ formula.issues) ∧
      node ∈ (DependencyGraph.ofFormula formula).ancestors node
  | .insufficientOperands _ _ _ _ | .divisionByZero _ | .overflow _ | .tooDeep => True

variable {formula : Formula} {inputs : Inputs} {id : String}

theorem resultIssues_subset (formula : Formula) : formula.resultIssues ⊆ formula.issues := by
  intro issue member
  simp only [issues, List.mem_append]
  exact Or.inl (Or.inl (Or.inl (Or.inl member)))

theorem connectionIssues_subset {connection : Connection}
    (connection_mem : connection ∈ formula.connections) :
    formula.connectionIssues connection ⊆ formula.issues := by
  intro issue member
  have listed := List.mem_flatMap.mpr ⟨connection, connection_mem, member⟩
  simp only [issues, List.mem_append]
  exact Or.inl (Or.inl (Or.inl (Or.inr listed)))

theorem nodeIssues_subset {node : Node} (node_mem : node ∈ formula.nodes) :
    formula.nodeIssues node ⊆ formula.issues := by
  intro issue member
  have listed := List.mem_flatMap.mpr ⟨node, node_mem, member⟩
  simp only [issues, List.mem_append]
  exact Or.inl (Or.inl (Or.inr listed))

theorem cycleIssues_subset (formula : Formula) :
    cycleIssues (DependencyGraph.ofFormula formula) ⊆ formula.issues := by
  intro issue member
  simp only [issues, List.mem_append]
  exact Or.inl (Or.inr member)

theorem reports_of_nodeIssues {node : Node} {message : String}
    (found : formula.node id = .ok node)
    (listed : Issue.error node.id message ∈ formula.nodeIssues node) : formula.Reports id := by
  rw [node_id found] at listed
  exact ⟨message, nodeIssues_subset (mem_nodes_of_node found) listed⟩

theorem predicts_of_unresolved {failure : Failure}
    (unresolved : formula.resultNode = .error failure) : formula.Predicts failure := by
  rw [resultNode] at unresolved
  split at unresolved
  · cases unresolved
  · cases unresolved
  · rename_i unnamed none_listed
    cases unresolved
    rw [Predicts]
    refine resultIssues_subset formula ?_
    rw [resultIssues, unnamed, none_listed]
    exact List.mem_cons_self

theorem reports_of_absent_result (resolved : formula.resultNode = .ok id)
    (absent : formula.node? id = none) : formula.Reports id := by
  rw [resultNode] at resolved
  split at resolved
  · rename_i named
    cases resolved
    have listed : Issue.error id s!"El nodo de resultado {id} no existe" ∈
        formula.resultIssues := by
      simp only [resultIssues, named, hasNode, absent, List.mem_append]
      exact Or.inl (Or.inr List.mem_cons_self)
    exact ⟨_, resultIssues_subset formula listed⟩
  · rename_i first rest _ listed
    cases resolved
    have present : id ∈ formula.resultNodes := by
      rw [listed]
      exact List.mem_cons_self
    obtain ⟨node, node_mem, rfl⟩ := List.mem_map.mp present
    rw [node?_of_node (node_of_mem (List.mem_filter.mp node_mem).1)] at absent
    cases absent
  · cases resolved

theorem reports_of_absent_source {connection : Connection}
    (connection_mem : connection ∈ formula.connections)
    (absent : formula.node? connection.source = none) : formula.Reports connection.source := by
  refine ⟨_, connectionIssues_subset connection_mem (List.mem_map.mpr ⟨connection.source, ?_, rfl⟩)⟩
  rw [List.mem_filter, hasNode, absent]
  exact ⟨List.mem_cons_self, rfl⟩

theorem reports_of_absent {result : String} (resolved : formula.resultNode = .ok result)
    (reach : formula.Reaches result id) (absent : formula.node? id = none) :
    formula.Reports id := by
  rcases reach.cases_tail with rfl | ⟨target, _, followed⟩
  · exact reports_of_absent_result resolved absent
  · obtain ⟨connection, connection_mem, rfl, _⟩ := exists_connection_of_follows followed
    exact reports_of_absent_source connection_mem absent

theorem sourceAt?_eq_none_iff {slot : String} :
    formula.sourceAt? id slot = none ↔ formula.incomingAt id slot = [] := by
  rw [sourceAt?, Option.map_eq_none_iff, List.head?_eq_none_iff]

/-- The checks predict the failure of reading a node that the evaluation reaches. -/
theorem predicts_of_unreadable {result : String} {failure : Failure}
    (resolved : formula.resultNode = .ok result) (reach : formula.Reaches result id)
    (read : formula.readingOf id = .error failure) : formula.Predicts failure := by
  rcases absent_or_readsAs_of_readingOf read with ⟨absent, rfl⟩ | ⟨node, found, reads⟩
  · exact reports_of_absent resolved reach absent
  generalize kind : node.kind = node_kind at reads
  cases reads with
  | @unpaired condition slot slot_mem disconnected =>
      have empty := sourceAt?_eq_none_iff.mp disconnected
      have listed : Issue.error node.id s!"El comparador no tiene entrada {slot}" ∈
          formula.nodeIssues node := by
        rw [nodeIssues, kind]
        refine List.mem_append_right _ (List.mem_map.mpr ⟨slot, ?_, rfl⟩)
        rw [List.mem_filter, node_id found, empty]
        exact ⟨slot_mem, rfl⟩
      exact reports_of_nodeIssues found listed
  | disconnected disconnected =>
      have empty := sourceAt?_eq_none_iff.mp disconnected
      have listed : Issue.error node.id "El nodo de resultado no tiene una entrada conectada" ∈
          formula.nodeIssues node := by
        rw [nodeIssues, kind, node_id found, empty]
        exact List.mem_cons_self
      exact reports_of_nodeIssues found listed
  | unsupported tag =>
      have listed : Issue.error node.id s!"Tipo de nodo no soportado: {tag}" ∈
          formula.nodeIssues node := by
        rw [nodeIssues, kind]
        exact List.mem_cons_self
      exact reports_of_nodeIssues found listed

/-- The checks predict the failure of a node whose operands allow no value. -/
theorem predicts_of_inconclusive {reading : Reading String} {amount : String → Number}
    {failure : Failure} (read : formula.readingOf id = .ok reading)
    (concluded : (reading.map amount).conclude inputs id = .error (.failed failure)) :
    formula.Predicts failure := by
  obtain ⟨node, found, reads⟩ := readsAs_of_readingOf read
  rcases Reading.exists_cause_of_conclude_failed concluded with
    ⟨operator, operands, values_eq, applied⟩ |
      ⟨condition, left, right, values_eq, arithmetic, rfl⟩
  · rcases Operator.cause_of_apply_error applied with
      ⟨required, given, rfl⟩ | rfl | rfl | ⟨relational, rfl⟩
    · trivial
    · trivial
    · trivial
    · generalize kind : node.kind = node_kind at reads
      cases reads with
      | metric | literal | comparison | passage => cases values_eq
      | fold =>
          cases values_eq
          have listed : Issue.error node.id s!"Operación no soportada: {operator.word}" ∈
              formula.nodeIssues node := by
            rw [nodeIssues, kind]
            refine List.mem_append_left _ ?_
            rw [if_pos relational]
            exact List.mem_cons_self
          exact reports_of_nodeIssues found listed
  · generalize kind : node.kind = node_kind at reads
    cases reads with
    | metric | literal | fold | passage => cases values_eq
    | comparison =>
        cases values_eq
        have listed : Issue.error node.id s!"Comparación no soportada: {condition.word}" ∈
            formula.nodeIssues node := by
          rw [nodeIssues, kind]
          refine List.mem_append_left _ ?_
          rw [if_neg (by simp [arithmetic])]
          exact List.mem_cons_self
        exact reports_of_nodeIssues found listed

theorem predicts_of_blames {result : String} {failure : Failure}
    (resolved : formula.resultNode = .ok result) (reach : formula.Reaches result id)
    (blame : formula.Blames inputs id failure) : formula.Predicts failure := by
  cases blame with
  | returned leads =>
      obtain ⟨cycle, found⟩ := exists_cycle_of_leads_back leads
      refine ⟨⟨cycle, found, cycleIssues_subset formula ?_⟩, mem_ancestors_of_leads leads⟩
      rw [cycleIssues, found]
      exact List.mem_cons_self
  | unreadable read => exact predicts_of_unreadable resolved reach read
  | inconclusive read concluded => exact predicts_of_inconclusive read concluded

theorem anyError_of_mem {issues : List Issue} {node? : Option String} {message : String}
    (member : ⟨.error, node?, message⟩ ∈ issues) : Issue.anyError issues = true :=
  List.any_eq_true.mpr ⟨_, member, rfl⟩

/-- A structural failure that is predicted is an error. -/
theorem Predicts.anyError {failure : Failure} (predicted : formula.Predicts failure)
    (structural : failure.isStructural = true) : Issue.anyError formula.issues = true := by
  cases failure with
  | missingResult => exact anyError_of_mem predicted
  | unknownNode | missingComparands | missingResultInput | unsupported =>
      obtain ⟨message, member⟩ := predicted
      exact anyError_of_mem member
  | cycle =>
      obtain ⟨⟨cycle, _, member⟩, _⟩ := predicted
      exact anyError_of_mem member
  | insufficientOperands | divisionByZero | overflow | tooDeep => cases structural

/-- The checks predict every structural failure of a run, and so of an evaluation, and blame the
same node.  In particular a formula without errors never fails in this way. -/
theorem issues_predict_failure {failure : Failure}
    (fails : (formula.run inputs).1 = .error (.failed failure)) :
    formula.Predicts failure ∧
      (Issue.anyError formula.issues = false → failure.isStructural = false) := by
  have predicted : formula.Predicts failure := by
    rcases blames_of_run fails with unresolved | rfl | ⟨result, blamed, resolved, reach, blame⟩
    · exact predicts_of_unresolved unresolved
    · trivial
    · exact predicts_of_blames resolved reach blame
  refine ⟨predicted, fun clean => ?_⟩
  cases structural : failure.isStructural with
  | false => rfl
  | true =>
      rw [predicted.anyError structural] at clean
      cases clean

/-- A total that counts a bonus which is computed from the total. -/
def looping : Formula where
  id := "looping"
  name := "Looping"
  nodes := [⟨"classes", .variable "clases"⟩, ⟨"bonus", .operation .sum⟩,
    ⟨"total", .operation .sum⟩, ⟨"amount", .result⟩]
  connections := [⟨"c1", "classes", "total", outputSlot, inputSlot⟩,
    ⟨"c2", "bonus", "total", outputSlot, inputSlot⟩,
    ⟨"c3", "total", "bonus", outputSlot, inputSlot⟩,
    ⟨"c4", "total", "amount", outputSlot, inputSlot⟩]
  result? := none
  distinct := by decide

/-- The failure at the total is predicted. -/
theorem looping_predicted :
    (looping.run []).1 = .error (.failed (.cycle "total")) ∧
      looping.Predicts (.cycle "total") := by
  have fails : (looping.run []).1 = .error (.failed (.cycle "total")) := by
    decide +kernel
  exact ⟨fails, (issues_predict_failure fails).1⟩

end Formula
end PayGraph
