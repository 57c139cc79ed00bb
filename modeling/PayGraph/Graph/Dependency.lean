import PayGraph.Formula
import PayGraph.Graph.Cycle

/-!
# Dependency graphs

A dependency graph holds the edges of a formula in both directions.  It looks at every connection,
whether or not an evaluation would follow it.
-/

namespace PayGraph

/-- A directed graph as two adjacencies that list the same edges from either end. -/
structure DependencyGraph (Vertex : Type) where
  /-- Nodes that each node directly depends on. -/
  predecessors : Adjacency Vertex := []
  /-- Nodes that directly depend on each node. -/
  successors : Adjacency Vertex := []
  deriving DecidableEq, Repr

namespace DependencyGraph

variable {Vertex : Type} [DecidableEq Vertex]

/-- Include a node. -/
def addNode (graph : DependencyGraph Vertex) (vertex : Vertex) : DependencyGraph Vertex :=
  ⟨graph.predecessors.touch vertex, graph.successors.touch vertex⟩

/-- Include an edge from a node to one that depends on it. -/
def addEdge (graph : DependencyGraph Vertex) (edge : Vertex × Vertex) : DependencyGraph Vertex :=
  ⟨(graph.predecessors.link edge.2 edge.1).touch edge.1,
    (graph.successors.link edge.1 edge.2).touch edge.2⟩

/-- The graph of some edges and further nodes; the nodes come first. -/
def ofEdges (edges : List (Vertex × Vertex)) (nodes : List Vertex) : DependencyGraph Vertex :=
  edges.foldl addEdge (nodes.foldl addNode {})

/-- The edges of a formula, one for each connection. -/
def edgesOf (formula : Formula) : List (String × String) :=
  formula.connections.map fun connection => (connection.source, connection.target)

/-- The graph of a formula.  Connections to missing nodes are edges too. -/
def ofFormula (formula : Formula) : DependencyGraph String :=
  ofEdges (edgesOf formula) (formula.nodes.map Node.id)

/-- Nodes reached so far and the nodes still to be visited become all nodes that can be reached. -/
def collect (adjacency : Adjacency Vertex) (visited : List Vertex) : List Vertex → List Vertex
  | [] => visited
  | next :: rest =>
    if next ∈ visited then collect adjacency visited rest
    else collect adjacency (next :: visited) (adjacency.neighbours next ++ rest)
termination_by pending => (adjacency.outside visited, pending.length)
decreasing_by
  · exact Prod.Lex.right _ (Nat.lt_succ_self _)
  · rename_i fresh
    by_cases present : next ∈ adjacency.vertices
    · exact Prod.Lex.left _ _ (Adjacency.outside_cons_lt present fresh)
    · rw [Adjacency.neighbours_eq_nil present]
      rcases Nat.lt_or_eq_of_le (Adjacency.outside_cons_le adjacency visited next) with
        smaller | same
      · exact Prod.Lex.left _ _ smaller
      · rw [same]
        exact Prod.Lex.right _ (Nat.lt_succ_self _)

/-- Every node that a node depends on, directly or not. -/
def ancestors (graph : DependencyGraph Vertex) (vertex : Vertex) : List Vertex :=
  collect graph.predecessors [] (graph.predecessors.neighbours vertex)

/-- A cycle in the direction of the dependencies, if there is any. -/
def findCycle (graph : DependencyGraph Vertex) : Option (List Vertex) :=
  graph.successors.findCycle

end DependencyGraph
end PayGraph
