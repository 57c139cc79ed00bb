import Mathlib.Data.List.Chain
import Mathlib.Data.List.Nodup
import Mathlib.Logic.Relation
import PayGraph.Proofs.Graph.Edges

/-!
# Soundness of the cycle search

The path of a search is at all times a walk along edges that meets no vertex twice, and the pending
vertices are neighbours of its latest vertex.  So the first edge that returns to the path closes a
cycle, and whatever the search reports is one.
-/

namespace PayGraph

section Walks

variable {Vertex : Type*} {edge : Vertex → Vertex → Prop}

/-- A walk along edges that returns to its start and meets no other vertex twice. -/
structure IsCycle (edge : Vertex → Vertex → Prop) (vertices : List Vertex) : Prop where
  walk : vertices.IsChain edge
  returns : ∃ start inner, vertices = start :: inner ++ [start] ∧ (start :: inner).Nodup

/-- A walk of at least two vertices leads from its first to its last. -/
theorem transGen_of_isChain {start final : Vertex} {inner : List Vertex}
    (walk : (start :: inner ++ [final]).IsChain edge) : Relation.TransGen edge start final := by
  induction inner generalizing start with
  | nil => exact .single (List.isChain_pair.mp walk)
  | cons next inner induction =>
      obtain ⟨first, rest⟩ := List.isChain_cons_cons.mp walk
      exact .head first (induction rest)

namespace IsCycle

variable {vertices : List Vertex} (cycle : IsCycle edge vertices)
include cycle

theorem exists_first : ∃ start, vertices.head? = some start := by
  obtain ⟨start, inner, rfl, _⟩ := cycle.returns
  exact ⟨start, rfl⟩

/-- If a cycle is a walk along some further edges, its first vertex leads back to itself along
them. -/
theorem leads_back {other : Vertex → Vertex → Prop} {start : Vertex}
    (first : vertices.head? = some start) (walk : vertices.IsChain other) :
    Relation.TransGen other start start := by
  obtain ⟨start, inner, rfl, _⟩ := cycle.returns
  cases first
  exact transGen_of_isChain walk

end IsCycle

/-- A list that is no walk has two neighbours without an edge. -/
theorem exists_pair_of_not_isChain {vertices : List Vertex} (broken : ¬vertices.IsChain edge) :
    ∃ source target, [source, target] <:+: vertices ∧ ¬edge source target := by
  induction vertices with
  | nil => exact absurd .nil broken
  | cons source rest induction =>
      cases rest with
      | nil => exact absurd (.singleton source) broken
      | cons target rest =>
          by_cases joined : edge source target
          · have broken_rest : ¬(target :: rest).IsChain edge :=
              fun walk => broken (List.isChain_cons_cons.mpr ⟨joined, walk⟩)
            obtain ⟨first, second, inside, apart⟩ := induction broken_rest
            exact ⟨first, second, inside.trans (List.suffix_cons _ _).isInfix, apart⟩
          · exact ⟨source, target, (List.prefix_append [source, target] rest).isInfix, joined⟩

end Walks

namespace Adjacency

variable {Vertex : Type} [DecidableEq Vertex] {adjacency : Adjacency Vertex}

/-- The path of a search, the latest vertex first. -/
structure Trail (adjacency : Adjacency Vertex) (path : List Vertex) : Prop where
  distinct : path.Nodup
  walk : path.IsChain fun later earlier => adjacency.Edge earlier later

namespace Trail

variable {path : List Vertex} {next : Vertex}

theorem extend (trail : Trail adjacency path)
    (ahead : ∀ latest ∈ path.head?, adjacency.Edge latest next) (off_path : next ∉ path) :
    Trail adjacency (next :: path) where
  distinct := List.nodup_cons.mpr ⟨off_path, trail.distinct⟩
  walk := List.isChain_cons.mpr ⟨ahead, trail.walk⟩

/-- An edge that returns to the path closes a cycle. -/
theorem isCycle (trail : Trail adjacency path)
    (ahead : ∀ latest ∈ path.head?, adjacency.Edge latest next) (on_path : next ∈ path) :
    IsCycle adjacency.Edge (closeCycle path next) := by
  obtain ⟨front, rest, rfl, off_front⟩ := List.eq_append_cons_of_mem on_path
  have front_eq : (front ++ next :: rest).takeWhile (· ≠ next) = front := by
    have all_differ : ∀ vertex ∈ front, decide (vertex ≠ next) = true :=
      fun vertex member => decide_eq_true fun same => off_front (same ▸ member)
    rw [List.takeWhile_append_of_pos all_differ, List.takeWhile_cons_of_neg (by simp),
      List.append_nil]
  -- Read backwards, the front of the path leads from the vertex on it to the latest one.
  have forwards : next :: front.reverse = (front ++ [next]).reverse := by simp
  rw [closeCycle, front_eq]
  refine ⟨?_, next, front.reverse, rfl, ?_⟩
  · have walk : (next :: front.reverse).IsChain adjacency.Edge := by
      rw [forwards, List.isChain_reverse]
      exact (List.isChain_split.mp trail.walk).1
    refine List.isChain_append.mpr ⟨walk, .singleton next, ?_⟩
    intro latest latest_last vertex vertex_first
    cases vertex_first
    apply ahead
    rw [forwards, List.getLast?_reverse] at latest_last
    cases front <;> simpa using latest_last
  · rw [forwards, List.nodup_reverse]
    refine trail.distinct.sublist ?_
    exact (List.Sublist.refl front).append (List.singleton_sublist.mpr List.mem_cons_self)

end Trail

theorem explore_isCycle {path done pending vertices : List Vertex}
    (result : explore adjacency path done pending = .cycle vertices)
    (trail : Trail adjacency path)
    (ahead : ∀ next ∈ pending, ∀ latest ∈ path.head?, adjacency.Edge latest next) :
    IsCycle adjacency.Edge vertices := by
  induction path, done, pending using explore.induct adjacency generalizing vertices with
  | case1 path done =>
      rw [explore] at result
      cases result
  | case2 path done next rest on_path =>
      rw [explore, if_pos on_path] at result
      cases result
      exact trail.isCycle (ahead next List.mem_cons_self) on_path
  | case3 path done next rest off_path known induction =>
      rw [explore, if_neg off_path, if_pos known] at result
      exact induction result trail fun other member => ahead other (List.mem_cons_of_mem _ member)
  | case4 path done next rest off_path fresh inner found induction =>
      rw [explore, if_neg off_path, if_neg fresh, found] at result
      cases result
      -- Below the next vertex its own neighbours are pending, so they are ahead of the longer path.
      refine induction found (trail.extend (ahead next List.mem_cons_self) off_path) ?_
      intro other neighbour latest latest_first
      cases latest_first
      exact neighbour
  | case5 path done next rest off_path fresh inner found _ rest_induction =>
      rw [explore, if_neg off_path, if_neg fresh, found] at result
      exact rest_induction result trail
        fun other member => ahead other (List.mem_cons_of_mem _ member)

theorem searchFrom_isCycle {done starts vertices : List Vertex}
    (result : searchFrom adjacency done starts = some vertices) :
    IsCycle adjacency.Edge vertices := by
  induction starts generalizing done with
  | nil => cases result
  | cons start rest induction =>
      rw [searchFrom] at result
      split at result
      · exact induction result
      · split at result
        · rename_i found
          cases result
          refine explore_isCycle found ⟨List.nodup_singleton start, .singleton start⟩ ?_
          intro next neighbour latest latest_first
          cases latest_first
          exact neighbour
        · exact induction result

/-- Whatever the search reports is a cycle along the edges. -/
theorem isCycle_of_findCycle {vertices : List Vertex}
    (result : adjacency.findCycle = some vertices) : IsCycle adjacency.Edge vertices :=
  searchFrom_isCycle result

end Adjacency
end PayGraph
