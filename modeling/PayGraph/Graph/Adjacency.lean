/-!
# Adjacency

An adjacency lists the neighbours of each node.  Nodes and neighbours keep the order in which they
were first mentioned, so that every answer is determined by the order of the edges.
-/

namespace PayGraph

/-- Neighbours of each node, both in the order of their first mention. -/
abbrev Adjacency (Vertex : Type) := List (Vertex × List Vertex)

namespace Adjacency

variable {Vertex : Type} [DecidableEq Vertex]

/-- The nodes that have an entry. -/
def vertices (adjacency : Adjacency Vertex) : List Vertex :=
  adjacency.map Prod.fst

/-- Neighbours of a node; a node without an entry has none. -/
def neighbours (adjacency : Adjacency Vertex) (vertex : Vertex) : List Vertex :=
  (adjacency.lookup vertex).getD []

/-- Give a node an entry if it has none. -/
def touch (adjacency : Adjacency Vertex) (vertex : Vertex) : Adjacency Vertex :=
  if vertex ∈ adjacency.vertices then adjacency else adjacency ++ [(vertex, [])]

/-- Make a node a neighbour of another, once. -/
def link (adjacency : Adjacency Vertex) (vertex neighbour : Vertex) : Adjacency Vertex :=
  (adjacency.touch vertex).map fun entry =>
    if entry.1 = vertex ∧ neighbour ∉ entry.2 then (entry.1, entry.2 ++ [neighbour]) else entry

theorem neighbours_eq_nil {adjacency : Adjacency Vertex} {vertex : Vertex}
    (absent : vertex ∉ adjacency.vertices) : adjacency.neighbours vertex = [] := by
  have missing : adjacency.lookup vertex = none := by
    rw [List.lookup_eq_none_iff]
    intro entry member
    have different : vertex ≠ entry.1 :=
      fun same => absent (same ▸ List.mem_map_of_mem member)
    simpa using different
  rw [neighbours, missing, Option.getD_none]

/-- Number of entries whose node is not in a list. -/
def outside (adjacency : Adjacency Vertex) (known : List Vertex) : Nat :=
  (adjacency.vertices.filter fun vertex => vertex ∉ known).length

theorem outside_cons (adjacency : Adjacency Vertex) (known : List Vertex) (vertex : Vertex) :
    adjacency.outside (vertex :: known) =
      ((adjacency.vertices.filter fun other => other ∉ known).filter (· ≠ vertex)).length := by
  rw [outside, List.filter_filter]
  congr 2
  funext other
  simp [not_or]

theorem outside_cons_le (adjacency : Adjacency Vertex) (known : List Vertex) (vertex : Vertex) :
    adjacency.outside (vertex :: known) ≤ adjacency.outside known := by
  rw [outside_cons]
  exact List.length_filter_le _ _

theorem outside_cons_lt {adjacency : Adjacency Vertex} {known : List Vertex} {vertex : Vertex}
    (present : vertex ∈ adjacency.vertices) (fresh : vertex ∉ known) :
    adjacency.outside (vertex :: known) < adjacency.outside known := by
  rw [outside_cons]
  refine List.length_filter_lt_length_iff_exists.mpr ⟨vertex, ?_, by simp⟩
  exact List.mem_filter.mpr ⟨present, by simpa using fresh⟩

end Adjacency
end PayGraph
