import PayGraph.Proofs.Idle
import PayGraph.Proofs.Likeness

/-!
# Pruning idle nodes

Idle nodes are dead code: without them, and without the connections at either end of which one
stands, a formula is evaluated as before and has no idle nodes.  The nodes that are kept read nodes
that are kept, so every list of connections into one of them stays what it was.
-/

namespace PayGraph
namespace Formula

/-- Neither end of the connection is idle. -/
def Keeps (formula : Formula) (connection : Connection) : Prop :=
  ¬formula.Idle connection.source ∧ ¬formula.Idle connection.target

instance (formula : Formula) : DecidablePred formula.Keeps :=
  fun connection => inferInstanceAs
    (Decidable (¬formula.Idle connection.source ∧ ¬formula.Idle connection.target))

/-- The formula without its idle nodes and without their connections. -/
def prune (formula : Formula) : Formula where
  id := formula.id
  name := formula.name
  nodes := formula.nodes.filter fun node => ¬formula.Idle node.id
  connections := formula.connections.filter fun connection => formula.Keeps connection
  result? := formula.result?
  distinct := formula.distinct.sublist (List.filter_sublist.map Node.id)

variable {formula : Formula} {id source result : String}

theorem not_idle_of_connection {connection : Connection}
    (connection_mem : connection ∈ formula.connections)
    (present : connection.target ∈ formula.nodes.map Node.id)
    (kept : ¬formula.Idle connection.target) : ¬formula.Idle connection.source := by
  rw [idle_iff]
  rintro ⟨_, result, resolved, result_present, unfed⟩
  apply kept
  refine idle_iff.mpr ⟨present, result, resolved, result_present, fun fed => unfed ?_⟩
  exact fed.tail ⟨connection, connection_mem, rfl, rfl⟩

theorem prune_node? (kept : ¬formula.Idle id) : formula.prune.node? id = formula.node? id := by
  rw [node?, node?, prune, List.find?_filter]
  congr 1
  funext node
  by_cases at_id : node.id = id <;> simp [at_id, kept]

theorem prune_node (kept : ¬formula.Idle id) : formula.prune.node id = formula.node id := by
  rw [node, node, prune_node? kept]

theorem prune_filter_connections (present : id ∈ formula.nodes.map Node.id)
    (kept : ¬formula.Idle id) (feeds : Connection → Bool)
    (into : ∀ connection, feeds connection = true → connection.target = id) :
    formula.prune.connections.filter feeds = formula.connections.filter feeds := by
  rw [prune, List.filter_filter]
  apply List.filter_congr
  intro connection connection_mem
  cases fed : feeds connection with
  | false => rfl
  | true =>
      cases into connection fed
      simpa using ⟨not_idle_of_connection connection_mem present kept, kept⟩

theorem prune_incoming (present : id ∈ formula.nodes.map Node.id) (kept : ¬formula.Idle id) :
    formula.prune.incoming id = formula.incoming id :=
  prune_filter_connections present kept _ fun _ into => by simpa using into

theorem prune_sourceAt? (present : id ∈ formula.nodes.map Node.id) (kept : ¬formula.Idle id)
    (slot : String) : formula.prune.sourceAt? id slot = formula.sourceAt? id slot := by
  have same : formula.prune.incomingAt id slot = formula.incomingAt id slot := by
    refine prune_filter_connections present kept _ fun connection into => ?_
    rw [Bool.and_eq_true, decide_eq_true_eq] at into
    exact into.1
  rw [sourceAt?, sourceAt?, same]

theorem prune_readingOf (kept : ¬formula.Idle id) :
    formula.prune.readingOf id = formula.readingOf id := by
  rw [readingOf, readingOf, prune_node kept]
  cases found : formula.node id with
  | error failure => rfl
  | ok node =>
      have present := mem_ids_of_node found
      obtain rfl := node_id found
      simp only [reading, prune_incoming present kept, prune_sourceAt? present kept]

theorem not_idle_of_follows (followed : formula.Follows id source) (kept : ¬formula.Idle id) :
    ¬formula.Idle source := by
  obtain ⟨connection, connection_mem, rfl, rfl⟩ := exists_connection_of_follows followed
  refine not_idle_of_connection connection_mem ?_ kept
  rw [Follows, sources] at followed
  split at followed
  · cases followed
  · rename_i node found
    exact mem_ids_of_node found

theorem prune_resultNode (formula : Formula) :
    formula.prune.resultNode = formula.resultNode := by
  have same_explicit : formula.prune.explicitResult? = formula.explicitResult? := rfl
  have results_kept : formula.prune.resultNodes =
      formula.resultNodes.filter fun id => ¬formula.Idle id := by
    rw [resultNodes, resultNodes, List.filter_map, prune, List.filter_comm]
    rfl
  rw [resultNode, resultNode, same_explicit, results_kept]
  cases named : formula.explicitResult? with
  | some id => rfl
  | none =>
      cases listed : formula.resultNodes with
      | nil => rfl
      | cons first rest =>
          have resolved : formula.resultNode = .ok first := by rw [resultNode, named, listed]
          have kept := not_idle_of_fedBy resolved .refl
          rw [List.filter_cons_of_pos (by simpa using kept)]

theorem prune_readAlike (formula : Formula) (inputs : Inputs) :
    ReadAlike (fun id => ¬formula.Idle id) formula inputs formula.prune inputs where
  same _ kept := prune_readingOf kept
  closed _ kept _ followed := not_idle_of_follows followed kept
  metrics _ _ _ _ := rfl

theorem prune_fedBy (resolved : formula.resultNode = .ok result) (fed : formula.FedBy result id) :
    formula.prune.FedBy result id := by
  induction fed with
  | refl => exact .refl
  | tail fed joined induction =>
      have target_kept := not_idle_of_fedBy resolved fed
      have source_kept := not_idle_of_fedBy resolved (fed.tail joined)
      obtain ⟨connection, connection_mem, rfl, rfl⟩ := joined
      refine induction.tail ⟨connection, List.mem_filter.mpr ⟨connection_mem, ?_⟩, rfl, rfl⟩
      exact decide_eq_true ⟨source_kept, target_kept⟩

theorem prune_not_idle (formula : Formula) (id : String) : ¬formula.prune.Idle id := by
  rw [idle_iff]
  rintro ⟨listed, result, resolved, present, unfed⟩
  rw [prune_resultNode] at resolved
  obtain ⟨node, node_mem, rfl⟩ := List.mem_map.mp listed
  obtain ⟨node_mem, kept⟩ := List.mem_filter.mp node_mem
  have idle : formula.Idle node.id := by
    refine idle_iff.mpr ⟨List.mem_map_of_mem node_mem, result, resolved, ?_, ?_⟩
    · rwa [hasNode, prune_node? (not_idle_of_fedBy resolved .refl)] at present
    · exact fun fed => unfed (prune_fedBy resolved fed)
  exact absurd idle (by simpa using kept)

/-- Without its idle nodes a formula is evaluated exactly as before, with the same amount, lines and
failure or the same number that cannot be written, and no warning about an idle node is left. -/
theorem prune_evaluates_alike (formula : Formula) (inputs : Inputs) :
    formula.prune.evaluate inputs = formula.evaluate inputs ∧
      ∀ issue ∈ formula.prune.issues, issue.severity = .warning →
        issue.message ≠ idleMessage := by
  constructor
  · refine (prune_readAlike formula inputs).evaluate_eq (prune_resultNode formula) ?_
    exact fun result resolved => not_idle_of_fedBy resolved .refl
  · intro issue listed mild speaks
    obtain ⟨id, idle, rfl⟩ := exists_idle_of_mem_issues listed mild speaks
    exact prune_not_idle formula id (idle_iff_mem_idleNodes.mpr idle)

end Formula
end PayGraph
