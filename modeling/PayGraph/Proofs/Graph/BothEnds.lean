import Mathlib
import PayGraph.Proofs.Graph.Queries

/-!
# Graphs from both ends

Each edge of a graph enters both of its adjacencies.  After any number of edges both have one entry
for every vertex that was mentioned, and list the other ends of its edges once each, in the order in
which they were first given.  So the search, which follows the edges forwards, and the ancestors,
which are found backwards, agree on which vertices lead back to themselves.
-/

namespace PayGraph
namespace Adjacency

variable {Vertex : Type} [DecidableEq Vertex]

theorem vertices_touch (adjacency : Adjacency Vertex) (added : Vertex) :
    (adjacency.touch added).vertices =
      if added ∈ adjacency.vertices then adjacency.vertices else adjacency.vertices ++ [added] := by
  rw [touch]
  split
  · rfl
  · rw [vertices, List.map_append]
    rfl

theorem mem_vertices_touch_iff (adjacency : Adjacency Vertex) (added vertex : Vertex) :
    vertex ∈ (adjacency.touch added).vertices ↔ vertex ∈ adjacency.vertices ∨ vertex = added := by
  rw [vertices_touch]
  split
  · rename_i present
    exact ⟨Or.inl, fun given => given.elim id fun same => same ▸ present⟩
  · rw [List.mem_append, List.mem_singleton]

theorem nodup_vertices_touch {adjacency : Adjacency Vertex} (distinct : adjacency.vertices.Nodup)
    (added : Vertex) : (adjacency.touch added).vertices.Nodup := by
  rw [vertices_touch]
  split
  · exact distinct
  · rename_i absent
    exact distinct.append (List.nodup_singleton added) (List.disjoint_singleton.mpr absent)

theorem vertices_link (adjacency : Adjacency Vertex) (source target : Vertex) :
    (adjacency.link source target).vertices = (adjacency.touch source).vertices := by
  rw [link, vertices, vertices, List.map_map]
  refine List.map_congr_left fun entry _ => ?_
  rw [Function.comp]
  split <;> rfl

/-- The neighbours of each vertex stand in the order of the first edges to them. -/
def InOrderOf (edges : List (Vertex × Vertex)) (adjacency : Adjacency Vertex) : Prop :=
  ∀ vertex, (adjacency.neighbours vertex).Pairwise fun earlier later =>
    edges.idxOf (vertex, earlier) < edges.idxOf (vertex, later)

theorem InOrderOf.nodup {edges : List (Vertex × Vertex)} {adjacency : Adjacency Vertex}
    (in_order : InOrderOf edges adjacency) (vertex : Vertex) :
    (adjacency.neighbours vertex).Nodup := by
  refine (in_order vertex).imp fun {earlier later} before => ?_
  rintro rfl
  exact Nat.lt_irrefl _ before

/-- A further edge stands behind those whose neighbours are listed. -/
theorem InOrderOf.link {edges : List (Vertex × Vertex)} {adjacency : Adjacency Vertex}
    (in_order : InOrderOf edges adjacency)
    (given : ∀ vertex neighbour, adjacency.Edge vertex neighbour ↔ (vertex, neighbour) ∈ edges)
    (source target : Vertex) :
    InOrderOf (edges ++ [(source, target)]) (adjacency.link source target) := by
  intro vertex
  have kept : (adjacency.neighbours vertex).Pairwise fun earlier later =>
      (edges ++ [(source, target)]).idxOf (vertex, earlier) <
        (edges ++ [(source, target)]).idxOf (vertex, later) := by
    refine (in_order vertex).imp_of_mem fun {earlier later} earlier_mem later_mem before => ?_
    rwa [List.idxOf_append_of_mem ((given vertex earlier).mp earlier_mem),
      List.idxOf_append_of_mem ((given vertex later).mp later_mem)]
  rw [neighbours_link]
  split
  · rename_i added
    obtain ⟨rfl, unlisted⟩ := added
    refine List.pairwise_append.mpr ⟨kept, List.pairwise_singleton _ _, ?_⟩
    rintro earlier earlier_mem _ (_ | ⟨_, ⟨⟩⟩)
    have earlier_given := (given vertex earlier).mp earlier_mem
    have target_new : (vertex, target) ∉ edges := fun old =>
      unlisted ((given vertex target).mpr old)
    rw [List.idxOf_append_of_mem earlier_given, List.idxOf_append_of_notMem target_new]
    exact Nat.lt_add_right _ (List.idxOf_lt_length_of_mem earlier_given)
  · exact kept

end Adjacency

namespace DependencyGraph

variable {Vertex : Type}

/-- The vertex is one of the further nodes or an end of an edge. -/
def Mentions (edges : List (Vertex × Vertex)) (nodes : List Vertex) (vertex : Vertex) : Prop :=
  vertex ∈ nodes ∨ ∃ edge ∈ edges, vertex = edge.1 ∨ vertex = edge.2

theorem mentions_map_swap_iff (edges : List (Vertex × Vertex)) (nodes : List Vertex)
    (vertex : Vertex) :
    Mentions (edges.map Prod.swap) nodes vertex ↔ Mentions edges nodes vertex := by
  refine or_congr_right ?_
  constructor
  · rintro ⟨_, turned, touches⟩
    obtain ⟨edge, edge_mem, rfl⟩ := List.mem_map.mp turned
    exact ⟨edge, edge_mem, touches.symm⟩
  · rintro ⟨edge, edge_mem, touches⟩
    exact ⟨edge.swap, List.mem_map_of_mem edge_mem, touches.symm⟩

variable [DecidableEq Vertex]

theorem ofEdges_nil (nodes : List Vertex) : ofEdges [] nodes = nodes.foldl addNode {} :=
  rfl

theorem ofEdges_concat (edges : List (Vertex × Vertex)) (edge : Vertex × Vertex)
    (nodes : List Vertex) :
    ofEdges (edges ++ [edge]) nodes = (ofEdges edges nodes).addEdge edge := by
  rw [ofEdges, List.foldl_append]
  rfl

theorem predecessors_ofEdges (edges : List (Vertex × Vertex)) (nodes : List Vertex) :
    (ofEdges edges nodes).predecessors = (ofEdges (edges.map Prod.swap) nodes).successors :=
  congrArg successors (reverse_ofEdges edges nodes)

theorem mem_vertices_foldl_addNode (graph : DependencyGraph Vertex) (nodes : List Vertex)
    (vertex : Vertex) :
    vertex ∈ (nodes.foldl addNode graph).successors.vertices ↔
      vertex ∈ graph.successors.vertices ∨ vertex ∈ nodes := by
  induction nodes generalizing graph with
  | nil => simp
  | cons node nodes induction =>
      rw [List.foldl_cons, induction, addNode, Adjacency.mem_vertices_touch_iff, List.mem_cons,
        or_assoc]

theorem nodup_vertices_foldl_addNode {graph : DependencyGraph Vertex}
    (distinct : graph.successors.vertices.Nodup) (nodes : List Vertex) :
    (nodes.foldl addNode graph).successors.vertices.Nodup := by
  induction nodes generalizing graph with
  | nil => exact distinct
  | cons node nodes induction => exact induction (Adjacency.nodup_vertices_touch distinct node)

/-- The vertices of a built graph are those that were mentioned. -/
theorem mem_vertices_successors (edges : List (Vertex × Vertex)) (nodes : List Vertex)
    (vertex : Vertex) :
    vertex ∈ (ofEdges edges nodes).successors.vertices ↔ Mentions edges nodes vertex := by
  induction edges using List.reverseRecOn with
  | nil =>
      rw [ofEdges_nil, mem_vertices_foldl_addNode]
      simp [Mentions, Adjacency.vertices]
  | append_singleton edges edge induction =>
      rw [ofEdges_concat, addEdge, Adjacency.mem_vertices_touch_iff, Adjacency.vertices_link,
        Adjacency.mem_vertices_touch_iff, induction]
      simp only [Mentions, List.mem_append, List.mem_singleton, or_and_right, exists_or,
        exists_eq_left, or_assoc]

theorem nodup_vertices_successors (edges : List (Vertex × Vertex)) (nodes : List Vertex) :
    (ofEdges edges nodes).successors.vertices.Nodup := by
  induction edges using List.reverseRecOn with
  | nil =>
      have none_yet : ({} : DependencyGraph Vertex).successors.vertices.Nodup := List.nodup_nil
      exact nodup_vertices_foldl_addNode none_yet nodes
  | append_singleton edges edge induction =>
      rw [ofEdges_concat]
      refine Adjacency.nodup_vertices_touch ?_ edge.2
      rw [Adjacency.vertices_link]
      exact Adjacency.nodup_vertices_touch induction edge.1

/-- The successors in a built graph stand in the order of the edges. -/
theorem inOrderOf_successors (edges : List (Vertex × Vertex)) (nodes : List Vertex) :
    Adjacency.InOrderOf edges (ofEdges edges nodes).successors := by
  induction edges using List.reverseRecOn with
  | nil =>
      intro vertex
      have isolated : (ofEdges [] nodes).successors.neighbours vertex = [] := by
        refine List.eq_nil_iff_forall_not_mem.mpr fun neighbour member => ?_
        cases (edge_successors_ofEdges [] nodes vertex neighbour).mp member
      rw [isolated]
      exact .nil
  | append_singleton edges edge induction =>
      intro vertex
      rw [ofEdges_concat, addEdge, Adjacency.neighbours_touch]
      exact induction.link (edge_successors_ofEdges edges nodes) edge.1 edge.2 vertex

theorem idxOf_map_swap (edges : List (Vertex × Vertex)) (source target : Vertex) :
    (edges.map Prod.swap).idxOf (target, source) = edges.idxOf (source, target) := by
  rw [List.idxOf, List.findIdx_map, List.idxOf]
  congr 1
  funext edge
  rw [Function.comp, ← Prod.swap_prod_mk, Bool.eq_iff_iff, beq_iff_eq, beq_iff_eq, Prod.swap_inj]

theorem mem_ancestors_self_iff (edges : List (Vertex × Vertex)) (nodes : List Vertex)
    (vertex : Vertex) :
    vertex ∈ (ofEdges edges nodes).ancestors vertex ↔
      Relation.TransGen (ofEdges edges nodes).successors.Edge vertex vertex := by
  have turned : (ofEdges edges nodes).predecessors.Edge =
      Function.swap (ofEdges edges nodes).successors.Edge := by
    funext target source
    rw [Function.swap, edge_predecessors_ofEdges, edge_successors_ofEdges]
  rw [mem_ancestors_iff, turned, Relation.transGen_swap]

theorem mem_ancestors_of_mem_cycle {edges : List (Vertex × Vertex)} {nodes cycle : List Vertex}
    (found : (ofEdges edges nodes).findCycle = some cycle) {vertex : Vertex}
    (member : vertex ∈ cycle) : vertex ∈ (ofEdges edges nodes).ancestors vertex :=
  (mem_ancestors_self_iff edges nodes vertex).mpr
    ((Adjacency.isCycle_of_findCycle found).leads_back_of_mem member)

theorem mentions_of_mem_ancestors {edges : List (Vertex × Vertex)} {nodes : List Vertex}
    {vertex : Vertex} (member : vertex ∈ (ofEdges edges nodes).ancestors vertex) :
    Mentions edges nodes vertex := by
  rw [mem_ancestors_self_iff] at member
  obtain ⟨next, edge, -⟩ := Relation.TransGen.head'_iff.mp member
  exact Or.inr ⟨_, (edge_successors_ofEdges edges nodes vertex next).mp edge, Or.inl rfl⟩

/-- The search reports nothing exactly if no vertex is its own ancestor. -/
theorem findCycle_eq_none_iff (edges : List (Vertex × Vertex)) (nodes : List Vertex) :
    (ofEdges edges nodes).findCycle = none ↔
      ∀ vertex, Mentions edges nodes vertex → vertex ∉ (ofEdges edges nodes).ancestors vertex := by
  constructor
  · intro nothing vertex _ member
    rw [mem_ancestors_self_iff] at member
    exact Adjacency.acyclic_of_findCycle_eq_none nothing vertex member
  · intro acyclic
    cases found : (ofEdges edges nodes).findCycle with
    | none => rfl
    | some cycle =>
        obtain ⟨start, first⟩ := (Adjacency.isCycle_of_findCycle found).exists_first
        have looped := mem_ancestors_of_mem_cycle found (List.mem_of_mem_head? first)
        exact absurd looped (acyclic start (mentions_of_mem_ancestors looped))

/-- Both adjacencies of a built graph have one entry for each vertex that was mentioned, and list
each given edge once, at its own place in the order of the edges; nothing else is listed.  The
search reports a cycle exactly if some vertex is its own ancestor, and then a cycle of such
vertices. -/
theorem built_alike_from_both_ends (edges : List (Vertex × Vertex)) (nodes : List Vertex) :
    ((ofEdges edges nodes).predecessors.vertices.Nodup ∧
        (ofEdges edges nodes).successors.vertices.Nodup) ∧
      (∀ vertex,
        (vertex ∈ (ofEdges edges nodes).predecessors.vertices ↔ Mentions edges nodes vertex) ∧
          (vertex ∈ (ofEdges edges nodes).successors.vertices ↔ Mentions edges nodes vertex)) ∧
      (∀ source target,
        ((ofEdges edges nodes).successors.neighbours source).count target =
            (if (source, target) ∈ edges then 1 else 0) ∧
          ((ofEdges edges nodes).predecessors.neighbours target).count source =
            (if (source, target) ∈ edges then 1 else 0)) ∧
      (∀ vertex,
        ((ofEdges edges nodes).successors.neighbours vertex).Pairwise (fun earlier later =>
            edges.idxOf (vertex, earlier) < edges.idxOf (vertex, later)) ∧
          ((ofEdges edges nodes).predecessors.neighbours vertex).Pairwise (fun earlier later =>
            edges.idxOf (earlier, vertex) < edges.idxOf (later, vertex))) ∧
      ((ofEdges edges nodes).findCycle = none ↔ ∀ vertex, Mentions edges nodes vertex →
        vertex ∉ (ofEdges edges nodes).ancestors vertex) ∧
      ∀ cycle, (ofEdges edges nodes).findCycle = some cycle → ∀ vertex ∈ cycle,
        vertex ∈ (ofEdges edges nodes).ancestors vertex := by
  have forwards := inOrderOf_successors edges nodes
  have backwards := inOrderOf_successors (edges.map Prod.swap) nodes
  rw [← predecessors_ofEdges] at backwards
  refine ⟨⟨?_, nodup_vertices_successors edges nodes⟩, fun vertex => ⟨?_, ?_⟩,
    fun source target => ⟨?_, ?_⟩, fun vertex => ⟨forwards vertex, ?_⟩,
    findCycle_eq_none_iff edges nodes, fun _ found _ => mem_ancestors_of_mem_cycle found⟩
  · rw [predecessors_ofEdges]
    exact nodup_vertices_successors (edges.map Prod.swap) nodes
  · rw [predecessors_ofEdges, mem_vertices_successors, mentions_map_swap_iff]
  · exact mem_vertices_successors edges nodes vertex
  · rw [(forwards.nodup source).count]
    exact if_congr (edge_successors_ofEdges edges nodes source target) rfl rfl
  · rw [(backwards.nodup target).count]
    exact if_congr (edge_predecessors_ofEdges edges nodes source target) rfl rfl
  · refine (backwards vertex).imp fun {earlier later} before => ?_
    rwa [idxOf_map_swap, idxOf_map_swap] at before

end DependencyGraph
end PayGraph
