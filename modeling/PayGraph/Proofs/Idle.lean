import PayGraph.Proofs.Flaws

/-!
# Idle nodes

The checks warn about a node as idle if the result node exists and no chain of connections leads to
it from the node.  The chain may use any connections, whether or not an evaluation follows them.
-/

namespace PayGraph
namespace Formula

open DependencyGraph

/-- A connection leads to a target from a source. -/
def Joined (formula : Formula) (target source : String) : Prop :=
  ∃ connection ∈ formula.connections, connection.source = source ∧ connection.target = target

/-- A chain of connections leads to a target from a source. -/
def FedBy (formula : Formula) : String → String → Prop :=
  Relation.ReflTransGen formula.Joined

/-- The checks warn about a node as idle. -/
def Idle (formula : Formula) (id : String) : Prop :=
  Issue.warning id idleMessage ∈ formula.issues

instance (formula : Formula) : DecidablePred formula.Idle :=
  fun id => inferInstanceAs (Decidable (Issue.warning id idleMessage ∈ formula.issues))

variable {formula : Formula} {id result : String} {issue : Issue}

theorem fedBy_of_reaches (reach : formula.Reaches result id) : formula.FedBy result id :=
  Relation.ReflTransGen.mono (fun _ _ => exists_connection_of_follows) result id reach

/-- A node is fed by itself and by its ancestors. -/
theorem fedBy_iff :
    formula.FedBy result id ↔ id = result ∨ id ∈ (ofFormula formula).ancestors result := by
  have same_edges : formula.Joined = (ofFormula formula).predecessors.Edge := by
    funext target source
    exact propext edge_predecessors_ofFormula.symm
  rw [FedBy, Relation.reflTransGen_iff_eq_or_transGen, mem_ancestors_iff, same_edges]

theorem severity_of_mem_connectionIssues {connection : Connection}
    (listed : issue ∈ formula.connectionIssues connection) : issue.severity = .error := by
  obtain ⟨id, _, rfl⟩ := List.mem_map.mp listed
  rfl

theorem severity_of_mem_nodeIssues {node : Node}
    (listed : issue ∈ formula.nodeIssues node) : issue.severity = .error := by
  obtain ⟨id, kind⟩ := node
  cases kind with
  | «variable» | constant => cases listed
  | operation | comparator | result | unsupported =>
      simp only [nodeIssues] at listed
      grind [Issue.error]

theorem severity_of_mem_cycleIssues {graph : DependencyGraph String}
    (listed : issue ∈ cycleIssues graph) : issue.severity = .error := by
  rw [cycleIssues] at listed
  split at listed
  · rw [List.mem_singleton.mp listed]
  · cases listed

theorem warning_of_mem_resultIssues (listed : issue ∈ formula.resultIssues)
    (mild : issue.severity = .warning) :
    issue.message = "Solo puede haber un nodo de resultado en la fórmula" := by
  simp only [resultIssues, List.mem_append] at listed
  rcases listed with (listed | listed) | listed
  · split at listed
    · rw [List.mem_singleton.mp listed] at mild
      cases mild
    · cases listed
  · split at listed
    · split at listed
      · cases listed
      · rw [List.mem_singleton.mp listed] at mild
        cases mild
    · cases listed
  · obtain ⟨id, _, rfl⟩ := List.mem_map.mp listed
    rfl

/-- A warning that speaks of an idle node is about one. -/
theorem exists_idle_of_mem_issues (listed : issue ∈ formula.issues)
    (mild : issue.severity = .warning) (speaks : issue.message = idleMessage) :
    ∃ id ∈ formula.idleNodes (ofFormula formula), issue = Issue.warning id idleMessage := by
  simp only [issues, List.mem_append] at listed
  rcases listed with (((listed | listed) | listed) | listed) | listed
  · rw [warning_of_mem_resultIssues listed mild] at speaks
    exact absurd speaks (by decide)
  · obtain ⟨connection, _, listed⟩ := List.mem_flatMap.mp listed
    rw [severity_of_mem_connectionIssues listed] at mild
    cases mild
  · obtain ⟨node, _, listed⟩ := List.mem_flatMap.mp listed
    rw [severity_of_mem_nodeIssues listed] at mild
    cases mild
  · rw [severity_of_mem_cycleIssues listed] at mild
    cases mild
  · obtain ⟨id, idle, rfl⟩ := List.mem_map.mp listed
    exact ⟨id, idle, rfl⟩

/-- The warnings are about the idle nodes. -/
theorem idle_iff_mem_idleNodes :
    formula.Idle id ↔ id ∈ formula.idleNodes (ofFormula formula) := by
  constructor
  · intro listed
    obtain ⟨other, idle, same⟩ := exists_idle_of_mem_issues listed rfl rfl
    cases same
    exact idle
  · intro idle
    simp only [Idle, issues, List.mem_append]
    exact Or.inr (List.mem_map_of_mem idle)

/-- A node is idle if the result node exists and is not fed by it. -/
theorem idle_iff : formula.Idle id ↔ id ∈ formula.nodes.map Node.id ∧
    ∃ result, formula.resultNode = .ok result ∧ formula.hasNode result = true ∧
      ¬formula.FedBy result id := by
  rw [idle_iff_mem_idleNodes, idleNodes]
  cases resolved : formula.resultNode with
  | error failure => simp
  | ok result =>
      cases present : formula.hasNode result with
      | false => simp [present]
      | true => simp [present, fedBy_iff]

theorem not_idle_of_fedBy (resolved : formula.resultNode = .ok result)
    (fed : formula.FedBy result id) : ¬formula.Idle id := by
  rw [idle_iff]
  rintro ⟨_, other, other_resolved, _, unfed⟩
  rw [resolved] at other_resolved
  cases other_resolved
  exact unfed fed

end Formula
end PayGraph
