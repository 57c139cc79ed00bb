import PayGraph.Proofs.Prediction
import PayGraph.Proofs.Success

/-!
# Grounds of errors

Each error of the static checks has one of four grounds: there is no result node, a node is absent,
a node has a flaw of its own, or the connections contain a cycle.  A node that is absent or flawed
comes to no value, whatever the values of its operands.
-/

namespace PayGraph
namespace Formula

/-- What the checks find wrong with a node of some kind. -/
inductive Flaw (formula : Formula) (id : String) : Kind → Prop
  | relational {operator : Operator} :
      operator.isRelational = true →
      Flaw formula id (.operation operator)
  | starved (operator : Operator) :
      formula.incoming id = [] →
      Flaw formula id (.operation operator)
  | arithmetic {condition : Operator} :
      condition.isRelational = false →
      Flaw formula id (.comparator condition)
  | unpaired (condition : Operator) {slot : String} :
      slot ∈ [leftSlot, rightSlot] →
      formula.incomingAt id slot = [] →
      Flaw formula id (.comparator condition)
  | disconnected :
      formula.incomingAt id inputSlot = [] →
      Flaw formula id .result
  | unsupported (tag : String) : Flaw formula id (.unsupported tag)

/-- Why the checks report an error. -/
inductive Grounds (formula : Formula) (issue : Issue) : Prop
  | unresolved :
      issue.node? = none →
      formula.resultNode = .error .missingResult →
      Grounds formula issue
  | absent {id : String} :
      issue.node? = some id →
      formula.node? id = none →
      Grounds formula issue
  | flawed {node : Node} :
      issue.node? = some node.id →
      formula.node node.id = .ok node →
      formula.Flaw node.id node.kind →
      Grounds formula issue
  | cyclic {cycle : List String} :
      issue.node? = cycle.head? →
      (DependencyGraph.ofFormula formula).findCycle = some cycle →
      issue ∈ cycleIssues (DependencyGraph.ofFormula formula) →
      Grounds formula issue

variable {formula : Formula} {inputs : Inputs} {issue : Issue}

theorem node?_of_not_hasNode {id : String} (lacking : formula.hasNode id = false) :
    formula.node? id = none := by
  simpa [hasNode] using lacking

theorem flaw_of_mem_nodeIssues {node : Node} (listed : issue ∈ formula.nodeIssues node) :
    issue.node? = some node.id ∧ formula.Flaw node.id node.kind := by
  obtain ⟨id, kind⟩ := node
  cases kind with
  | «variable» | constant => cases listed
  | operation operator =>
      rcases List.mem_append.mp listed with listed | listed
      · split_ifs at listed with relational
        · cases List.mem_singleton.mp listed
          exact ⟨rfl, .relational relational⟩
        · cases listed
      · split_ifs at listed with empty
        · cases List.mem_singleton.mp listed
          exact ⟨rfl, .starved operator (List.isEmpty_iff.mp empty)⟩
        · cases listed
  | comparator condition =>
      rcases List.mem_append.mp listed with listed | listed
      · split_ifs at listed with relational
        · cases listed
        · cases List.mem_singleton.mp listed
          exact ⟨rfl, .arithmetic (Bool.eq_false_iff.mpr relational)⟩
      · obtain ⟨slot, slot_mem, rfl⟩ := List.mem_map.mp listed
        obtain ⟨slot_mem, empty⟩ := List.mem_filter.mp slot_mem
        exact ⟨rfl, .unpaired condition slot_mem (List.isEmpty_iff.mp empty)⟩
  | result =>
      simp only [nodeIssues] at listed
      split_ifs at listed with empty
      · cases List.mem_singleton.mp listed
        exact ⟨rfl, .disconnected (List.isEmpty_iff.mp empty)⟩
      · cases listed
  | unsupported tag =>
      cases List.mem_singleton.mp listed
      exact ⟨rfl, .unsupported tag⟩

/-- An error in the choice of the result node is that there is none or that it is absent. -/
theorem grounds_of_mem_resultIssues (listed : issue ∈ formula.resultIssues)
    (severe : issue.severity = .error) : formula.Grounds issue := by
  simp only [resultIssues, List.mem_append] at listed
  rcases listed with (listed | listed) | listed
  · split at listed
    · rename_i unnamed none_listed
      cases List.mem_singleton.mp listed
      refine .unresolved rfl ?_
      rw [resultNode, unnamed, none_listed]
    · cases listed
  · cases named : formula.explicitResult? with
    | none =>
        rw [named] at listed
        cases listed
    | some id =>
        simp only [named] at listed
        split_ifs at listed with present
        · cases listed
        · cases List.mem_singleton.mp listed
          exact .absent rfl (node?_of_not_hasNode (Bool.eq_false_iff.mpr present))
  · obtain ⟨id, _, rfl⟩ := List.mem_map.mp listed
    cases severe

theorem grounds_of_mem_connectionIssues {connection : Connection}
    (listed : issue ∈ formula.connectionIssues connection) : formula.Grounds issue := by
  obtain ⟨id, id_mem, rfl⟩ := List.mem_map.mp listed
  obtain ⟨_, lacking⟩ := List.mem_filter.mp id_mem
  exact .absent rfl (node?_of_not_hasNode (by simpa using lacking))

/-- An issue of a cycle is about the first node of the cycle that the search finds. -/
theorem exists_cycle_of_mem_cycleIssues
    (listed : issue ∈ cycleIssues (DependencyGraph.ofFormula formula)) :
    ∃ cycle, (DependencyGraph.ofFormula formula).findCycle = some cycle ∧
      issue.node? = cycle.head? := by
  rw [cycleIssues] at listed
  cases found : (DependencyGraph.ofFormula formula).findCycle with
  | none =>
      rw [found] at listed
      cases listed
  | some cycle =>
      rw [found] at listed
      cases List.mem_singleton.mp listed
      exact ⟨cycle, rfl, rfl⟩

/-- Every error of the checks has its grounds. -/
theorem grounds_of_mem_issues (listed : issue ∈ formula.issues)
    (severe : issue.severity = .error) : formula.Grounds issue := by
  simp only [issues, List.mem_append] at listed
  rcases listed with (((listed | listed) | listed) | listed) | listed
  · exact grounds_of_mem_resultIssues listed severe
  · obtain ⟨connection, _, listed⟩ := List.mem_flatMap.mp listed
    exact grounds_of_mem_connectionIssues listed
  · obtain ⟨node, node_mem, listed⟩ := List.mem_flatMap.mp listed
    obtain ⟨about, flaw⟩ := flaw_of_mem_nodeIssues listed
    exact .flawed about (node_of_mem node_mem) flaw
  · obtain ⟨cycle, found, about⟩ := exists_cycle_of_mem_cycleIssues listed
    exact .cyclic about found listed
  · obtain ⟨id, _, rfl⟩ := List.mem_map.mp listed
    cases severe

theorem not_computes_of_absent {id : String} (absent : formula.node? id = none) :
    ¬formula.Computes inputs id := by
  rintro ⟨reading, _, _, _, read, _⟩
  obtain ⟨node, found, _⟩ := readsAs_of_readingOf read
  rw [node?_of_node found] at absent
  cases absent

/-- A flawed node comes to no value. -/
theorem Flaw.not_computes {node : Node} (flaw : formula.Flaw node.id node.kind)
    (found : formula.node node.id = .ok node) : ¬formula.Computes inputs node.id := by
  rintro ⟨reading, amount, value, step, read, concludes⟩
  obtain ⟨other, other_found, reads⟩ := readsAs_of_readingOf read
  rw [found] at other_found
  cases other_found
  generalize node.kind = kind at flaw reads
  cases flaw with
  | relational relational =>
      cases reads
      cases concludes with
      | fold applied _ _ =>
          rw [(Operator.arithmetic_of_apply applied).1] at relational
          cases relational
  | starved operator empty =>
      cases reads
      cases concludes with
      | fold applied _ _ =>
          refine (Operator.arithmetic_of_apply applied).2 ?_
          rw [empty, List.map_nil, List.map_nil]
  | arithmetic arithmetic =>
      cases reads
      cases concludes with
      | comparison compared _ _ _ _ =>
          rw [Operator.relational_of_compare compared] at arithmetic
          cases arithmetic
  | unpaired condition slot_mem empty =>
      have disconnected := sourceAt?_eq_none_iff.mpr empty
      cases reads with
      | comparison _ left_connected right_connected =>
          rw [List.mem_cons, List.mem_singleton] at slot_mem
          rcases slot_mem with rfl | rfl
          · rw [left_connected] at disconnected
            cases disconnected
          · rw [right_connected] at disconnected
            cases disconnected
  | disconnected empty =>
      have disconnected := sourceAt?_eq_none_iff.mpr empty
      cases reads with
      | passage connected =>
          rw [connected] at disconnected
          cases disconnected
  | unsupported tag => cases reads

end Formula
end PayGraph
