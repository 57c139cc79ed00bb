import PayGraph.Proofs.Graph.Edges
import PayGraph.Proofs.Graph.Layers

/-!
# Completeness of the cycle search

The searched vertices are at all times layered by the edges of the graph, so none of them lies on a
cycle.  A search that ends without a cycle has searched every vertex.
-/

namespace PayGraph
namespace Adjacency

variable {Vertex : Type} [DecidableEq Vertex]

/-- What a search knows between two of its steps: the searched vertices are layered, and the path
is outside of them. -/
structure SearchState (adjacency : Adjacency Vertex) (path done : List Vertex) : Prop where
  layered : Layered adjacency.Edge done
  apart : ∀ vertex ∈ path, vertex ∉ done

namespace SearchState

variable {adjacency : Adjacency Vertex} {path done : List Vertex} {next : Vertex}

/-- Extend the path by a vertex that has not been searched. -/
theorem descend (state : SearchState adjacency path done) (fresh : next ∉ done) :
    SearchState adjacency (next :: path) done where
  layered := state.layered
  apart := by
    intro vertex member
    rcases List.mem_cons.mp member with rfl | member
    · exact fresh
    · exact state.apart vertex member

/-- Finish the latest vertex of the path once all of its neighbours have been searched. -/
theorem ascend (state : SearchState adjacency (next :: path) done) (off_path : next ∉ path)
    (searched : adjacency.neighbours next ⊆ done) :
    SearchState adjacency path (next :: done) where
  layered :=
    .cons (fun _ edge => searched edge) (state.apart next List.mem_cons_self) state.layered
  apart := by
    intro vertex member finished
    rcases List.mem_cons.mp finished with rfl | finished
    · exact off_path member
    · exact state.apart vertex (List.mem_cons_of_mem _ member) finished

end SearchState

/-- A search that finds no cycle searches everything it was given and forgets nothing. -/
theorem explore_finished {adjacency : Adjacency Vertex} {path done pending searched : List Vertex}
    (result : explore adjacency path done pending = .finished searched)
    (state : SearchState adjacency path done) :
    SearchState adjacency path searched ∧ done ⊆ searched ∧ pending ⊆ searched := by
  induction path, done, pending using explore.induct adjacency generalizing searched with
  | case1 path done =>
      rw [explore] at result
      cases result
      exact ⟨state, List.Subset.refl _, List.nil_subset _⟩
  | case2 path done next rest on_path =>
      rw [explore, if_pos on_path] at result
      cases result
  | case3 path done next rest off_path known induction =>
      rw [explore, if_neg off_path, if_pos known] at result
      obtain ⟨final, kept, covered⟩ := induction result state
      exact ⟨final, kept, List.cons_subset.mpr ⟨kept known, covered⟩⟩
  | case4 path done next rest off_path fresh vertices found _ =>
      rw [explore, if_neg off_path, if_neg fresh, found] at result
      cases result
  | case5 path done next rest off_path fresh inner found below_induction rest_induction =>
      rw [explore, if_neg off_path, if_neg fresh, found] at result
      obtain ⟨below, below_kept, neighbours_searched⟩ :=
        below_induction found (state.descend fresh)
      obtain ⟨final, kept, covered⟩ :=
        rest_induction result (below.ascend off_path neighbours_searched)
      refine ⟨final, ?_, List.cons_subset.mpr ⟨kept List.mem_cons_self, covered⟩⟩
      exact fun vertex member => kept (List.mem_cons_of_mem _ (below_kept member))

theorem searchFrom_eq_none {adjacency : Adjacency Vertex} {done starts : List Vertex}
    (result : searchFrom adjacency done starts = none) (layered : Layered adjacency.Edge done) :
    ∃ searched, Layered adjacency.Edge searched ∧ done ⊆ searched ∧ starts ⊆ searched := by
  induction starts generalizing done with
  | nil => exact ⟨done, layered, List.Subset.refl _, List.nil_subset _⟩
  | cons start rest induction =>
      rw [searchFrom] at result
      by_cases known : start ∈ done
      · rw [if_pos known] at result
        obtain ⟨searched, final, kept, covered⟩ := induction result layered
        exact ⟨searched, final, kept, List.cons_subset.mpr ⟨kept known, covered⟩⟩
      · rw [if_neg known] at result
        cases found : explore adjacency [start] done (adjacency.neighbours start) with
        | cycle vertices =>
            rw [found] at result
            cases result
        | finished inner =>
            rw [found] at result
            have entered : SearchState adjacency [start] done :=
              ⟨layered, by simpa using known⟩
            obtain ⟨below, below_kept, neighbours_searched⟩ := explore_finished found entered
            have finished := below.ascend List.not_mem_nil neighbours_searched
            obtain ⟨searched, final, kept, covered⟩ := induction result finished.layered
            refine ⟨searched, final, ?_, List.cons_subset.mpr ⟨kept List.mem_cons_self, covered⟩⟩
            exact fun vertex member => kept (List.mem_cons_of_mem _ (below_kept member))

/-- If the search reports nothing, no vertex leads back to itself. -/
theorem acyclic_of_findCycle_eq_none {adjacency : Adjacency Vertex}
    (result : adjacency.findCycle = none) (vertex : Vertex) :
    ¬Relation.TransGen adjacency.Edge vertex vertex := by
  obtain ⟨searched, layered, _, covered⟩ := searchFrom_eq_none result .nil
  by_cases present : vertex ∈ adjacency.vertices
  · exact layered.acyclic (covered present)
  · intro cycle
    obtain ⟨next, edge, _⟩ := Relation.TransGen.head'_iff.mp cycle
    rw [Edge, neighbours_eq_nil present] at edge
    cases edge

end Adjacency
end PayGraph
