import PayGraph.Proofs.Followed
import PayGraph.Proofs.Graph.Ancestors
import PayGraph.Proofs.Graph.CycleSearch

/-!
# Dependencies of a formula

The dependency graph of a formula has one edge for each connection, so it contains everything that
an evaluation may follow.  A node whose evaluation would read it again is its own ancestor and lies
on a cycle that the search finds.
-/

namespace PayGraph
namespace DependencyGraph

theorem mem_edgesOf {formula : Formula} {source target : String} :
    (source, target) ∈ edgesOf formula ↔
      ∃ connection ∈ formula.connections,
        connection.source = source ∧ connection.target = target := by
  rw [edgesOf, List.mem_map]
  simp only [Prod.mk.injEq]

/-- A node directly depends on the sources of its connections. -/
theorem edge_predecessors_ofFormula {formula : Formula} {source target : String} :
    (ofFormula formula).predecessors.Edge target source ↔
      ∃ connection ∈ formula.connections,
        connection.source = source ∧ connection.target = target := by
  rw [ofFormula, edge_predecessors_ofEdges, mem_edgesOf]

theorem edge_successors_ofFormula {formula : Formula} {source target : String} :
    (ofFormula formula).successors.Edge source target ↔
      ∃ connection ∈ formula.connections,
        connection.source = source ∧ connection.target = target := by
  rw [ofFormula, edge_successors_ofEdges, mem_edgesOf]

end DependencyGraph

namespace Formula

open DependencyGraph

variable {formula : Formula} {id : String}

theorem edge_of_follows {source : String} (followed : formula.Follows id source) :
    (ofFormula formula).predecessors.Edge id source :=
  edge_predecessors_ofFormula.mpr (exists_connection_of_follows followed)

/-- Everything that a node leads to is among its ancestors. -/
theorem mem_ancestors_of_leads {source : String}
    (leads : Relation.TransGen formula.Follows id source) :
    source ∈ (ofFormula formula).ancestors id := by
  rw [mem_ancestors_iff]
  exact Relation.TransGen.mono (fun _ _ => edge_of_follows) id source leads

/-- The search finds a cycle if some node leads back to itself. -/
theorem exists_cycle_of_leads_back (leads : Relation.TransGen formula.Follows id id) :
    ∃ cycle, (ofFormula formula).findCycle = some cycle := by
  have turned : ∀ node source, formula.Follows node source →
      (ofFormula formula).successors.Edge source node := by
    intro node source followed
    exact edge_successors_ofFormula.mpr (exists_connection_of_follows followed)
  have backwards : Relation.TransGen (ofFormula formula).successors.Edge id id := by
    rw [← Relation.transGen_swap]
    exact Relation.TransGen.mono turned id id leads
  cases found : (ofFormula formula).findCycle with
  | some cycle => exact ⟨cycle, rfl⟩
  | none => exact absurd backwards (Adjacency.acyclic_of_findCycle_eq_none found id)

end Formula
end PayGraph
