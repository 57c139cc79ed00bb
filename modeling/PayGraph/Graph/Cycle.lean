import PayGraph.Graph.Adjacency

/-!
# Searching for a cycle

A depth-first search follows neighbours in order and reports the first edge that returns to the
current path.  Nodes whose neighbours have all been searched are never entered again.
-/

namespace PayGraph

/-- Outcome of a search: a cycle in edge order with its first node repeated at the end, or the nodes
that are known to lead to none. -/
inductive Search (Vertex : Type) where
  | cycle (vertices : List Vertex)
  | finished (done : List Vertex)
  deriving DecidableEq, Repr

namespace Adjacency

variable {Vertex : Type} [DecidableEq Vertex]

/-- The cycle that an edge back to a node of the path closes.  The path starts at its latest
node. -/
def closeCycle (path : List Vertex) (vertex : Vertex) : List Vertex :=
  vertex :: (path.takeWhile (· ≠ vertex)).reverse ++ [vertex]

/-- Search the pending neighbours of the latest node of a path. -/
def explore (adjacency : Adjacency Vertex) (path done : List Vertex) :
    List Vertex → Search Vertex
  | [] => .finished done
  | next :: rest =>
    if next ∈ path then .cycle (closeCycle path next)
    else if next ∈ done then explore adjacency path done rest
    else
      match explore adjacency (next :: path) done (adjacency.neighbours next) with
      | .cycle vertices => .cycle vertices
      | .finished searched => explore adjacency path (next :: searched) rest
termination_by pending => (adjacency.outside path, pending.length)
decreasing_by
  · exact Prod.Lex.right _ (Nat.lt_succ_self _)
  · rename_i fresh _
    by_cases present : next ∈ adjacency.vertices
    · exact Prod.Lex.left _ _ (outside_cons_lt present fresh)
    · rw [neighbours_eq_nil present]
      rcases Nat.lt_or_eq_of_le (outside_cons_le adjacency path next) with smaller | same
      · exact Prod.Lex.left _ _ smaller
      · rw [same]
        exact Prod.Lex.right _ (Nat.zero_lt_succ _)
  · exact Prod.Lex.right _ (Nat.lt_succ_self _)

/-- Search from each of the given nodes in turn. -/
def searchFrom (adjacency : Adjacency Vertex) (done : List Vertex) :
    List Vertex → Option (List Vertex)
  | [] => none
  | start :: rest =>
    if start ∈ done then searchFrom adjacency done rest
    else
      match explore adjacency [start] done (adjacency.neighbours start) with
      | .cycle vertices => some vertices
      | .finished searched => searchFrom adjacency (start :: searched) rest

/-- A cycle in edge order, from some node back to it, if there is any. -/
def findCycle (adjacency : Adjacency Vertex) : Option (List Vertex) :=
  searchFrom adjacency [] adjacency.vertices

end Adjacency
end PayGraph
