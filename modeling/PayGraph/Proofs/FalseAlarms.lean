import Mathlib
import PayGraph.Proofs.Flaws
import PayGraph.Proofs.Graph.CycleShape

/-!
# Errors and false alarms

An error of the static checks about a node that the evaluation reaches announces that no evaluation
succeeds.  This holds of every error but the one about a cycle: the checks look for cycles among all
connections, and a cycle through a connection that is not followed harms no evaluation.
-/

namespace PayGraph
namespace Formula

/-- An evaluation meets an issue that is about no node or about one that the result node reaches. -/
def Meets (formula : Formula) (issue : Issue) : Prop :=
  ∀ id, issue.node? = some id →
    ∃ result, formula.resultNode = .ok result ∧ formula.Reaches result id

variable {formula : Formula} {inputs : Inputs} {issue : Issue}

theorem meets_of_reaches {result id : String} (about : issue.node? = some id)
    (resolved : formula.resultNode = .ok result) (reach : formula.Reaches result id) :
    formula.Meets issue := by
  intro other same
  rw [about] at same
  cases same
  exact ⟨result, resolved, reach⟩

/-- An error that is met and not about a cycle rules out success, wherever it stands in the formula
and whatever else goes wrong before it. -/
theorem met_error_fails (listed : issue ∈ formula.issues) (severe : issue.severity = .error)
    (uncyclic : issue ∉ cycleIssues (DependencyGraph.ofFormula formula))
    (met : formula.Meets issue) : formula.Fails inputs := by
  cases grounds_of_mem_issues listed severe with
  | unresolved _ unresolved => exact fails_of_unresolved unresolved
  | absent about absent =>
      obtain ⟨result, resolved, reach⟩ := met _ about
      exact fails_of_not_computes resolved reach (not_computes_of_absent absent)
  | flawed about found flaw =>
      obtain ⟨result, resolved, reach⟩ := met _ about
      exact fails_of_not_computes resolved reach (flaw.not_computes found)
  | cyclic _ _ cyclic => exact absurd cyclic uncyclic

/-- A share that is divided among nobody before the open side of a comparison is read. -/
def halfOpen : Formula where
  id := "half-open"
  name := "Half open"
  nodes := [⟨"teachers", .variable "profesores"⟩, ⟨"bonus", .constant (.integer 100)⟩,
    ⟨"share", .operation .division⟩, ⟨"full", .comparator .greaterThan⟩,
    ⟨"pay", .operation .multiplication⟩, ⟨"amount", .result⟩]
  connections := [⟨"c1", "bonus", "share", outputSlot, inputSlot⟩,
    ⟨"c2", "teachers", "share", outputSlot, inputSlot⟩,
    ⟨"c3", "teachers", "full", outputSlot, leftSlot⟩,
    ⟨"c4", "share", "pay", outputSlot, inputSlot⟩,
    ⟨"c5", "full", "pay", outputSlot, inputSlot⟩,
    ⟨"c6", "pay", "amount", outputSlot, inputSlot⟩]
  result? := none
  distinct := by decide

/-- The open side rules out success, although the division may fail before it is read. -/
theorem halfOpen_fails :
    (halfOpen.run []).1 = .error (.failed (.divisionByZero "share")) ∧
      halfOpen.Fails [] ∧ halfOpen.Fails [("profesores", .integer 4)] := by
  have issues_eq : halfOpen.issues =
      [Issue.error "full" "El comparador no tiene entrada valueB"] := by
    cbv
  have cycles_eq : cycleIssues (DependencyGraph.ofFormula halfOpen) = [] := by
    cbv
  have listed : Issue.error "full" "El comparador no tiene entrada valueB" ∈ halfOpen.issues := by
    rw [issues_eq]
    exact List.mem_cons_self
  have uncyclic : Issue.error "full" "El comparador no tiene entrada valueB" ∉
      cycleIssues (DependencyGraph.ofFormula halfOpen) := by
    rw [cycles_eq]
    exact List.not_mem_nil
  have met : halfOpen.Meets (Issue.error "full" "El comparador no tiene entrada valueB") := by
    have pay_followed : "pay" ∈ halfOpen.sources "amount" := by decide
    have full_followed : "full" ∈ halfOpen.sources "pay" := by decide
    exact meets_of_reaches rfl (by decide) (.tail (.single pay_followed) full_followed)
  exact ⟨by decide +kernel, met_error_fails listed rfl uncyclic met,
    met_error_fails listed rfl uncyclic met⟩

theorem exists_connection_of_infix {cycle : List String} {source target : String}
    (found : (DependencyGraph.ofFormula formula).findCycle = some cycle)
    (inside : [source, target] <:+: cycle) :
    ∃ connection ∈ formula.connections,
      connection.source = source ∧ connection.target = target := by
  have walk := List.IsChain.infix (Adjacency.isCycle_of_findCycle found).walk inside
  exact DependencyGraph.edge_successors_ofFormula.mp (List.isChain_pair.mp walk)

/-- An error about a cycle that is met is a false alarm only if a connection of the cycle is not
followed; such a connection does not lead into an operation. -/
theorem met_cycle_fails_or_unfollowed
    (listed : issue ∈ cycleIssues (DependencyGraph.ofFormula formula))
    (met : formula.Meets issue) :
    formula.Fails inputs ∨
      ∃ cycle connection, (DependencyGraph.ofFormula formula).findCycle = some cycle ∧
        connection ∈ formula.connections ∧
        [connection.source, connection.target] <:+: cycle ∧
        ¬formula.Follows connection.target connection.source ∧
        ∀ operator, formula.node connection.target ≠
          .ok ⟨connection.target, .operation operator⟩ := by
  obtain ⟨cycle, found, about⟩ := exists_cycle_of_mem_cycleIssues listed
  have shape := Adjacency.isCycle_of_findCycle found
  by_cases followed : cycle.IsChain fun source target => formula.Follows target source
  · obtain ⟨start, first⟩ := shape.exists_first
    obtain ⟨result, resolved, reach⟩ := met start (about.trans first)
    have leads := Relation.transGen_swap.mp (shape.leads_back first followed)
    exact Or.inl (fails_of_leads_back resolved reach leads)
  · obtain ⟨source, target, inside, unfollowed⟩ := exists_pair_of_not_isChain followed
    obtain ⟨connection, connection_mem, rfl, rfl⟩ := exists_connection_of_infix found inside
    refine Or.inr ⟨cycle, connection, found, connection_mem, inside, unfollowed, ?_⟩
    intro operator operation
    exact unfollowed (follows_of_operation connection_mem operation)

/-- The cycle of the total and its bonus is no false alarm. -/
theorem looping_cycle_fails : looping.Fails [("clases", .integer 5)] := by
  have cycle_found : (DependencyGraph.ofFormula looping).findCycle =
      some ["total", "bonus", "total"] := by
    cbv
  have listed : ⟨.error, some "total", "Ciclo detectado: total -> bonus -> total"⟩ ∈
      cycleIssues (DependencyGraph.ofFormula looping) := by
    rw [cycleIssues, cycle_found]
    exact List.mem_cons_self
  have met : looping.Meets
      ⟨.error, some "total", "Ciclo detectado: total -> bonus -> total"⟩ := by
    have total_followed : "total" ∈ looping.sources "amount" := by decide
    exact meets_of_reaches rfl (by decide) (.single total_followed)
  rcases met_cycle_fails_or_unfollowed listed met with
    fails | ⟨cycle, connection, found, connection_mem, _, unfollowed, _⟩
  · exact fails
  · rw [cycle_found] at found
    cases found
    have all_followed : ∀ connection ∈ looping.connections,
        connection.source ∈ looping.sources connection.target := by
      decide
    exact absurd (all_followed connection connection_mem) unfollowed

/-- A metric whose node has an input: the total of the classes leads into the classes. -/
def backfed : Formula where
  id := "backfed"
  name := "Backfed"
  nodes := [⟨"classes", .variable "clases"⟩, ⟨"total", .operation .sum⟩, ⟨"amount", .result⟩]
  connections := [⟨"c1", "classes", "total", outputSlot, inputSlot⟩,
    ⟨"c2", "total", "classes", outputSlot, inputSlot⟩,
    ⟨"c3", "total", "amount", outputSlot, inputSlot⟩]
  result? := none
  distinct := by decide

/-- The error about the cycle is met, and the evaluation succeeds. -/
theorem backfed_succeeds :
    ⟨.error, some "classes", "Ciclo detectado: classes -> total -> classes"⟩ ∈ backfed.issues ∧
      backfed.resultNode = .ok "amount" ∧ backfed.Reaches "amount" "classes" ∧
      backfed.evaluate [("clases", .integer 3)] = .ok ⟨.integer 3, [
        .ordinary "classes" "Variable clases: 3" (.integer 3),
        .ordinary "total" "Operación suma: [3] = 3" (.integer 3),
        .ordinary "amount" "Resultado final: 3" (.integer 3)], none⟩ := by
  have listed : backfed.issues =
      [⟨.error, some "classes", "Ciclo detectado: classes -> total -> classes"⟩] := by
    cbv
  have total_followed : "total" ∈ backfed.sources "amount" := by decide
  have classes_followed : "classes" ∈ backfed.sources "total" := by decide
  refine ⟨?_, by decide, .tail (.single total_followed) classes_followed, by decide +kernel⟩
  rw [listed]
  exact List.mem_cons_self

end Formula
end PayGraph
