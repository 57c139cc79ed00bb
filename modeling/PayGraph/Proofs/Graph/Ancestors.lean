import PayGraph.Proofs.Graph.Edges
import Mathlib.Logic.Relation

/-!
# Ancestors as a closure

Collecting the vertices that can be reached ends with exactly those: everything visited can be
reached, and what is visited stays closed up to the vertices that are still pending.
-/

namespace PayGraph
namespace DependencyGraph

variable {Vertex : Type} [DecidableEq Vertex] {adjacency : Adjacency Vertex}

/-- Every neighbour of a visited vertex is visited or pending. -/
def ClosedUpTo (adjacency : Adjacency Vertex) (visited pending : List Vertex) : Prop :=
  ∀ vertex ∈ visited, ∀ next ∈ adjacency.neighbours vertex, next ∈ visited ∨ next ∈ pending

theorem collect_sound {visited pending : List Vertex} {vertex : Vertex}
    (member : vertex ∈ collect adjacency visited pending) :
    vertex ∈ visited ∨
      ∃ start ∈ pending, Relation.ReflTransGen adjacency.Edge start vertex := by
  induction visited, pending using collect.induct adjacency with
  | case1 visited =>
      rw [collect] at member
      exact Or.inl member
  | case2 visited next rest known induction =>
      rw [collect, if_pos known] at member
      rcases induction member with old | ⟨start, start_mem, reach⟩
      · exact Or.inl old
      · exact Or.inr ⟨start, List.mem_cons_of_mem _ start_mem, reach⟩
  | case3 visited next rest fresh induction =>
      rw [collect, if_neg fresh] at member
      rcases induction member with old | ⟨start, start_mem, reach⟩
      · rcases List.mem_cons.mp old with rfl | old
        · exact Or.inr ⟨vertex, List.mem_cons_self, .refl⟩
        · exact Or.inl old
      · rcases List.mem_append.mp start_mem with edge | start_mem
        · exact Or.inr ⟨next, List.mem_cons_self, .head edge reach⟩
        · exact Or.inr ⟨start, List.mem_cons_of_mem _ start_mem, reach⟩

theorem collect_complete {visited pending : List Vertex}
    (closed : ClosedUpTo adjacency visited pending) :
    visited ⊆ collect adjacency visited pending ∧ pending ⊆ collect adjacency visited pending ∧
      ClosedUpTo adjacency (collect adjacency visited pending) [] := by
  induction visited, pending using collect.induct adjacency with
  | case1 visited =>
      rw [collect]
      exact ⟨List.Subset.refl _, List.nil_subset _, closed⟩
  | case2 visited next rest known induction =>
      rw [collect, if_pos known]
      have closed_rest : ClosedUpTo adjacency visited rest := by
        intro vertex member after edge
        rcases closed vertex member after edge with old | pending
        · exact Or.inl old
        · rcases List.mem_cons.mp pending with rfl | pending
          · exact Or.inl known
          · exact Or.inr pending
      obtain ⟨kept, covered, final⟩ := induction closed_rest
      exact ⟨kept, List.cons_subset.mpr ⟨kept known, covered⟩, final⟩
  | case3 visited next rest fresh induction =>
      rw [collect, if_neg fresh]
      have closed_next :
          ClosedUpTo adjacency (next :: visited) (adjacency.neighbours next ++ rest) := by
        intro vertex member after edge
        rcases List.mem_cons.mp member with rfl | member
        · exact Or.inr (List.mem_append_left _ edge)
        · rcases closed vertex member after edge with old | pending
          · exact Or.inl (List.mem_cons_of_mem _ old)
          · rcases List.mem_cons.mp pending with rfl | pending
            · exact Or.inl List.mem_cons_self
            · exact Or.inr (List.mem_append_right _ pending)
      obtain ⟨kept, covered, final⟩ := induction closed_next
      obtain ⟨next_kept, visited_kept⟩ := List.cons_subset.mp kept
      refine ⟨visited_kept, List.cons_subset.mpr ⟨next_kept, ?_⟩, final⟩
      exact fun vertex member => covered (List.mem_append_right _ member)

/-- The ancestors of a vertex are the vertices it leads to by at least one predecessor edge. -/
theorem mem_ancestors_iff (graph : DependencyGraph Vertex) (vertex ancestor : Vertex) :
    ancestor ∈ graph.ancestors vertex ↔
      Relation.TransGen graph.predecessors.Edge vertex ancestor := by
  constructor
  · intro member
    rcases collect_sound member with visited | ⟨start, edge, reach⟩
    · cases visited
    · exact Relation.TransGen.head'_iff.mpr ⟨start, edge, reach⟩
  · intro path
    have nothing_visited :
        ClosedUpTo graph.predecessors [] (graph.predecessors.neighbours vertex) :=
      fun vertex member => absurd member List.not_mem_nil
    obtain ⟨_, covered, closed⟩ := collect_complete nothing_visited
    induction path with
    | single edge => exact covered edge
    | tail _ edge induction =>
        exact (closed _ induction _ edge).resolve_right List.not_mem_nil

end DependencyGraph
end PayGraph
