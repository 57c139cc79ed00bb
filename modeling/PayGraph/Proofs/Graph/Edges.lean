import PayGraph.Graph.Dependency
import PayGraph.Proofs.Association

/-!
# Edges of built graphs

The graph of a list of edges has exactly these edges, in both directions.  Either adjacency is built
by the same operation with the ends of the edge exchanged, so each law is proved once.
-/

namespace PayGraph
namespace Adjacency

variable {Vertex : Type} [DecidableEq Vertex]

/-- An edge from a vertex to a neighbour. -/
def Edge (adjacency : Adjacency Vertex) (vertex neighbour : Vertex) : Prop :=
  neighbour ∈ adjacency.neighbours vertex

@[simp]
theorem neighbours_touch (adjacency : Adjacency Vertex) (added vertex : Vertex) :
    (adjacency.touch added).neighbours vertex = adjacency.neighbours vertex := by
  rw [touch]
  split
  · rfl
  · rw [neighbours, neighbours, List.lookup_append]
    cases adjacency.lookup vertex with
    | some listed => rfl
    | none =>
        by_cases same : vertex = added
        · simp [same]
        · have differs : (vertex == added) = false := by simpa using same
          simp [List.lookup_cons, differs]

theorem mem_vertices_touch (adjacency : Adjacency Vertex) (vertex : Vertex) :
    vertex ∈ (adjacency.touch vertex).vertices := by
  rw [touch]
  split
  · assumption
  · simp [vertices]

/-- A link adds its target behind the neighbours of its source, once. -/
theorem neighbours_link (adjacency : Adjacency Vertex) (source target vertex : Vertex) :
    (adjacency.link source target).neighbours vertex =
      if vertex = source ∧ target ∉ adjacency.neighbours vertex then
        adjacency.neighbours vertex ++ [target]
      else adjacency.neighbours vertex := by
  let extend (at_vertex : Vertex) (listed : List Vertex) : List Vertex :=
    if at_vertex = source ∧ target ∉ listed then listed ++ [target] else listed
  have as_values : adjacency.link source target =
      (adjacency.touch source).map fun entry => (entry.1, extend entry.1 entry.2) := by
    rw [link]
    refine List.map_congr_left fun entry _ => ?_
    simp only [extend]
    split <;> rfl
  have kept := neighbours_touch adjacency source vertex
  rw [neighbours] at kept
  rw [as_values, neighbours, Association.lookup_map_values extend]
  cases found : (adjacency.touch source).lookup vertex with
  | some listed =>
      rw [found, Option.getD_some] at kept
      simp [← kept, extend]
  | none =>
      rw [found, Option.getD_none] at kept
      have elsewhere : vertex ≠ source := by
        rintro rfl
        obtain ⟨listed, present⟩ :=
          (Association.mem_keys_iff _ vertex).mp (mem_vertices_touch adjacency vertex)
        rw [found] at present
        cases present
      simp [← kept, elsewhere]

theorem edge_link (adjacency : Adjacency Vertex) (source target vertex neighbour : Vertex) :
    (adjacency.link source target).Edge vertex neighbour ↔
      adjacency.Edge vertex neighbour ∨ vertex = source ∧ neighbour = target := by
  rw [Edge, Edge, neighbours_link]
  by_cases added : vertex = source ∧ target ∉ adjacency.neighbours vertex
  · rw [if_pos added, List.mem_append, List.mem_singleton]
    simp [added.1]
  · rw [if_neg added]
    constructor
    · exact Or.inl
    · rintro (member | ⟨at_source, rfl⟩)
      · exact member
      · exact Decidable.byContradiction fun absent => added ⟨at_source, absent⟩

end Adjacency

namespace DependencyGraph

variable {Vertex : Type} [DecidableEq Vertex]

/-- The graph with every edge turned around. -/
def reverse (graph : DependencyGraph Vertex) : DependencyGraph Vertex :=
  ⟨graph.successors, graph.predecessors⟩

theorem reverse_foldl_addNode (graph : DependencyGraph Vertex) (nodes : List Vertex) :
    (nodes.foldl addNode graph).reverse = nodes.foldl addNode graph.reverse := by
  induction nodes generalizing graph with
  | nil => rfl
  | cons node nodes induction => exact induction (graph.addNode node)

theorem reverse_foldl_addEdge (graph : DependencyGraph Vertex) (edges : List (Vertex × Vertex)) :
    (edges.foldl addEdge graph).reverse = (edges.map Prod.swap).foldl addEdge graph.reverse := by
  induction edges generalizing graph with
  | nil => rfl
  | cons edge edges induction => exact induction (graph.addEdge edge)

theorem reverse_ofEdges (edges : List (Vertex × Vertex)) (nodes : List Vertex) :
    (ofEdges edges nodes).reverse = ofEdges (edges.map Prod.swap) nodes := by
  rw [ofEdges, reverse_foldl_addEdge, reverse_foldl_addNode]
  rfl

theorem edge_foldl_addNode (graph : DependencyGraph Vertex) (nodes : List Vertex)
    (source target : Vertex) :
    (nodes.foldl addNode graph).successors.Edge source target ↔
      graph.successors.Edge source target := by
  induction nodes generalizing graph with
  | nil => rfl
  | cons node nodes induction =>
      rw [List.foldl_cons, induction]
      simp [addNode, Adjacency.Edge]

theorem edge_foldl_addEdge (graph : DependencyGraph Vertex) (edges : List (Vertex × Vertex))
    (source target : Vertex) :
    (edges.foldl addEdge graph).successors.Edge source target ↔
      graph.successors.Edge source target ∨ (source, target) ∈ edges := by
  induction edges generalizing graph with
  | nil => simp
  | cons edge edges induction =>
      have added : (graph.addEdge edge).successors.Edge source target ↔
          graph.successors.Edge source target ∨ source = edge.1 ∧ target = edge.2 := by
        rw [← Adjacency.edge_link]
        simp [addEdge, Adjacency.Edge]
      rw [List.foldl_cons, induction, added, List.mem_cons, Prod.ext_iff, or_assoc]

theorem edge_successors_ofEdges (edges : List (Vertex × Vertex)) (nodes : List Vertex)
    (source target : Vertex) :
    (ofEdges edges nodes).successors.Edge source target ↔ (source, target) ∈ edges := by
  rw [ofEdges, edge_foldl_addEdge, edge_foldl_addNode]
  simp [Adjacency.Edge, Adjacency.neighbours]

/-- The predecessors of a built graph are the sources of its edges. -/
theorem edge_predecessors_ofEdges (edges : List (Vertex × Vertex)) (nodes : List Vertex)
    (source target : Vertex) :
    (ofEdges edges nodes).predecessors.Edge target source ↔ (source, target) ∈ edges := by
  have turned : (ofEdges edges nodes).predecessors =
      (ofEdges (edges.map Prod.swap) nodes).successors :=
    congrArg successors (reverse_ofEdges edges nodes)
  rw [turned, edge_successors_ofEdges]
  constructor
  · intro member
    obtain ⟨edge, edge_mem, swapped⟩ := List.mem_map.mp member
    have edge_eq : edge = (source, target) := by
      rw [← Prod.swap_swap edge, swapped]
      rfl
    exact edge_eq ▸ edge_mem
  · exact fun member => List.mem_map.mpr ⟨(source, target), member, rfl⟩

end DependencyGraph
end PayGraph
