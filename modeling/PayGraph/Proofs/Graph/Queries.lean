import Mathlib
import PayGraph.Proofs.Graph.Ancestors
import PayGraph.Proofs.Graph.CycleSearch
import PayGraph.Proofs.Graph.CycleShape

/-!
# Exactness of the graph queries

The search reports a cycle exactly if there is one, and the ancestors of a vertex are exactly the
vertices that lead to it.  A vertex that leads back to itself lies on a cycle that meets no other
vertex twice, so a vertex is its own ancestor exactly if it lies on a cycle.
-/

namespace PayGraph

section Walks

variable {Vertex : Type*} {edge : Vertex → Vertex → Prop} {vertices : List Vertex}

/-- A vertex leads to another by a walk that meets no vertex twice. -/
theorem exists_walk_of_reaches {start final : Vertex}
    (reach : Relation.ReflTransGen edge start final) :
    ∃ inner, (start :: inner).IsChain edge ∧ (start :: inner).Nodup ∧
      (start :: inner).getLast? = some final := by
  induction reach using Relation.ReflTransGen.head_induction_on with
  | refl => exact ⟨[], .singleton final, List.nodup_singleton final, rfl⟩
  | @head start next first _ induction =>
      obtain ⟨inner, walk, distinct, last⟩ := induction
      by_cases met : start ∈ next :: inner
      · -- The walk comes back to the start, so its end from there is enough.
        obtain ⟨before, after, split⟩ := List.append_of_mem met
        rw [split] at walk distinct last
        refine ⟨after, walk.right_of_append, distinct.of_append_right, ?_⟩
        rw [← last, List.getLast?_append_cons]
      · exact ⟨next :: inner, .cons_cons first walk, List.nodup_cons.mpr ⟨met, distinct⟩, last⟩

/-- Every vertex of a cycle leads back to itself. -/
theorem IsCycle.leads_back_of_mem (cycle : IsCycle edge vertices) {vertex : Vertex}
    (member : vertex ∈ vertices) : Relation.TransGen edge vertex vertex := by
  obtain ⟨start, inner, rfl, -⟩ := cycle.returns
  have around : Relation.TransGen edge start start := transGen_of_isChain cycle.walk
  by_cases at_start : vertex = start
  · exact at_start ▸ around
  · have inside : vertex ∈ inner := by simpa [at_start] using member
    obtain ⟨before, after, rfl⟩ := List.append_of_mem inside
    have walk : (start :: before ++ vertex :: (after ++ [start])).IsChain edge := by
      simpa using cycle.walk
    obtain ⟨forth, back⟩ := List.isChain_split.mp walk
    exact (transGen_of_isChain back).trans (transGen_of_isChain forth)

/-- A vertex leads back to itself exactly if it lies on a cycle. -/
theorem leads_back_iff_mem_cycle {vertex : Vertex} :
    Relation.TransGen edge vertex vertex ↔ ∃ cycle, IsCycle edge cycle ∧ vertex ∈ cycle := by
  constructor
  · intro leads
    obtain ⟨next, first, back⟩ := Relation.TransGen.head'_iff.mp leads
    obtain ⟨inner, walk, distinct, last⟩ := exists_walk_of_reaches back
    obtain ⟨front, split⟩ := List.getLast?_eq_some_iff.mp last
    have closed : (vertex :: (next :: inner)).IsChain edge := .cons_cons first walk
    rw [split] at closed distinct
    have apart := List.nodup_append_comm.mp distinct
    exact ⟨vertex :: front ++ [vertex], ⟨closed, vertex, front, rfl, apart⟩, List.mem_cons_self⟩
  · rintro ⟨cycle, shape, member⟩
    exact shape.leads_back_of_mem member

end Walks

namespace Adjacency

variable {Vertex : Type} [DecidableEq Vertex]

/-- What the search reports is a closed walk along edges that meets no vertex twice on its way, and
it reports nothing exactly if no vertex leads back to itself. -/
theorem findCycle_exact (adjacency : Adjacency Vertex) :
    (∀ vertices, adjacency.findCycle = some vertices →
      2 ≤ vertices.length ∧ vertices.head? = vertices.getLast? ∧ vertices.dropLast.Nodup ∧
        vertices.IsChain adjacency.Edge) ∧
      (adjacency.findCycle = none ↔
        ∀ vertex, ¬Relation.TransGen adjacency.Edge vertex vertex) := by
  refine ⟨?_, acyclic_of_findCycle_eq_none, ?_⟩
  · intro vertices found
    obtain ⟨walk, start, inner, rfl, distinct⟩ := isCycle_of_findCycle found
    refine ⟨by simp, ?_, ?_, walk⟩
    · rw [List.getLast?_concat, List.cons_append, List.head?_cons]
    · rwa [List.dropLast_concat]
  · intro acyclic
    cases found : adjacency.findCycle with
    | none => rfl
    | some vertices =>
        have shape := isCycle_of_findCycle found
        obtain ⟨start, first⟩ := shape.exists_first
        exact absurd (shape.leads_back first shape.walk) (acyclic start)

/-- A vertex without an entry, an edge given twice and a loop beside the cycle that is found. -/
def detour : Adjacency String :=
  [("start", ["gone", "left"]), ("left", ["right", "right"]), ("right", ["left", "right"])]

theorem detour_cycle_found :
    detour.findCycle = some ["left", "right", "left"] ∧
      ["left", "right", "left"].IsChain detour.Edge := by
  have found : detour.findCycle = some ["left", "right", "left"] := by
    cbv
  exact ⟨found, ((findCycle_exact detour).1 _ found).2.2.2⟩

end Adjacency

namespace DependencyGraph

variable {Vertex : Type} [DecidableEq Vertex]

/-- An edge leads from a source to a target. -/
def Joins (edges : List (Vertex × Vertex)) (source target : Vertex) : Prop :=
  (source, target) ∈ edges

theorem nodup_collect {adjacency : Adjacency Vertex} {visited pending : List Vertex}
    (distinct : visited.Nodup) : (collect adjacency visited pending).Nodup := by
  induction visited, pending using collect.induct adjacency with
  | case1 visited =>
      rw [collect]
      exact distinct
  | case2 visited next rest known induction =>
      rw [collect, if_pos known]
      exact induction distinct
  | case3 visited next rest fresh induction =>
      rw [collect, if_neg fresh]
      exact induction (List.nodup_cons.mpr ⟨fresh, distinct⟩)

/-- The ancestors of a vertex are the vertices that lead to it along at least one edge, each listed
once.  The vertex is among them exactly if it lies on a cycle. -/
theorem ancestors_exact (edges : List (Vertex × Vertex)) (nodes : List Vertex) (vertex : Vertex) :
    ((ofEdges edges nodes).ancestors vertex).Nodup ∧
      (∀ ancestor, ancestor ∈ (ofEdges edges nodes).ancestors vertex ↔
        Relation.TransGen (Joins edges) ancestor vertex) ∧
      (vertex ∈ (ofEdges edges nodes).ancestors vertex ↔
        ∃ cycle, IsCycle (Joins edges) cycle ∧ vertex ∈ cycle) := by
  have backwards : (ofEdges edges nodes).predecessors.Edge = Function.swap (Joins edges) := by
    funext target source
    exact propext (edge_predecessors_ofEdges edges nodes source target)
  have exact_closure : ∀ ancestor, ancestor ∈ (ofEdges edges nodes).ancestors vertex ↔
      Relation.TransGen (Joins edges) ancestor vertex := by
    intro ancestor
    rw [mem_ancestors_iff, backwards, Relation.transGen_swap]
  refine ⟨nodup_collect List.nodup_nil, exact_closure, ?_⟩
  rw [exact_closure, leads_back_iff_mem_cycle]

end DependencyGraph
end PayGraph
