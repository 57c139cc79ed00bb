import Mathlib.Data.List.Nodup
import Mathlib.Logic.Relation
import PayGraph.Evaluation

/-!
# Followed connections

An evaluation follows only some of the connections of a formula: all of those into an operation, the
first into each side of a comparator that has both, and the first into the input of a result node.
The sources of a node are the nodes at the other end of the followed connections, in the order in
which they are read.
-/

namespace PayGraph

/-- If every entry has its value, so has the list. -/
theorem mapM_eq_pure {Operand Value : Type} {m : Type → Type} [Monad m] [LawfulMonad m]
    {value : Operand → m Value} {amount : Operand → Value} {listed : List Operand}
    (agree : ∀ operand ∈ listed, value operand = pure (amount operand)) :
    listed.mapM value = pure (listed.map amount) := by
  induction listed with
  | nil => rfl
  | cons operand rest induction =>
      have rest_values := induction fun other member => agree other (List.mem_cons_of_mem _ member)
      rw [List.mapM_cons, agree operand List.mem_cons_self, rest_values, pure_bind, pure_bind]
      rfl

namespace Reading

/-- Put another operand in place of each. -/
def map {Operand Value : Type} (change : Operand → Value) : Reading Operand → Reading Value
  | .metric name => .metric name
  | .literal value => .literal value
  | .fold operator operands => .fold operator (operands.map change)
  | .comparison condition left right => .comparison condition (change left) (change right)
  | .passage operand => .passage (change operand)

theorem operands_map {Operand Value : Type} (change : Operand → Value)
    (reading : Reading Operand) : (reading.map change).operands = reading.operands.map change := by
  cases reading <;> rfl

theorem map_congr {Operand Value : Type} {change other : Operand → Value}
    {reading : Reading Operand}
    (agree : ∀ operand ∈ reading.operands, other operand = change operand) :
    reading.map other = reading.map change := by
  cases reading with
  | metric | literal => rfl
  | fold operator listed => exact congrArg (fold operator) (List.map_congr_left agree)
  | comparison condition left right =>
      rw [map, map, agree left (by simp [operands]), agree right (by simp [operands])]
  | passage operand => rw [map, map, agree operand (by simp [operands])]

end Reading

namespace Formula

theorem node?_of_node {formula : Formula} {id : String} {node : Node}
    (found : formula.node id = .ok node) : formula.node? id = some node := by
  revert found
  fun_cases Formula.node formula id with
  | case1 other looked_up =>
      rintro ⟨⟩
      exact looked_up
  | case2 => rintro ⟨⟩

theorem node_id {formula : Formula} {id : String} {node : Node}
    (found : formula.node id = .ok node) : node.id = id := by
  have looked_up := node?_of_node found
  rw [node?] at looked_up
  simpa using List.find?_some looked_up

theorem mem_nodes_of_node {formula : Formula} {id : String} {node : Node}
    (found : formula.node id = .ok node) : node ∈ formula.nodes :=
  List.mem_of_find?_eq_some (node?_of_node found)

theorem mem_ids_of_node {formula : Formula} {id : String} {node : Node}
    (found : formula.node id = .ok node) : id ∈ formula.nodes.map Node.id :=
  List.mem_map.mpr ⟨node, mem_nodes_of_node found, node_id found⟩

theorem node_of_mem {formula : Formula} {node : Node} (node_mem : node ∈ formula.nodes) :
    formula.node node.id = .ok node := by
  fun_cases Formula.node formula node.id with
  | case1 found looked_up =>
      rw [node?] at looked_up
      have same_id : found.id = node.id := by simpa using List.find?_some looked_up
      rw [List.inj_on_of_nodup_map formula.distinct (List.mem_of_find?_eq_some looked_up) node_mem
        same_id]
  | case2 absent => exact absurd (decide_eq_true rfl) (List.find?_eq_none.mp absent node node_mem)

/-- The reading of the node with an identifier. -/
def readingOf (formula : Formula) (id : String) : Except Failure (Reading String) :=
  match formula.node id with
  | .error failure => .error failure
  | .ok node => formula.reading node

/-- What reading a kind of node comes to: the reading that its connections allow, or the failure of
a node that lacks a connection or cannot be computed. -/
inductive ReadsAs (formula : Formula) (id : String) :
    Kind → Except Failure (Reading String) → Prop
  | metric (name : String) : ReadsAs formula id (.variable name) (.ok (.metric name))
  | literal (value : Number) : ReadsAs formula id (.constant value) (.ok (.literal value))
  | fold (operator : Operator) :
      ReadsAs formula id (.operation operator)
        (.ok (.fold operator ((formula.incoming id).map Connection.source)))
  | comparison (condition : Operator) {left right : String} :
      formula.sourceAt? id leftSlot = some left →
      formula.sourceAt? id rightSlot = some right →
      ReadsAs formula id (.comparator condition) (.ok (.comparison condition left right))
  | unpaired (condition : Operator) {slot : String} :
      slot ∈ [leftSlot, rightSlot] →
      formula.sourceAt? id slot = none →
      ReadsAs formula id (.comparator condition) (.error (.missingComparands id))
  | passage {source : String} :
      formula.sourceAt? id inputSlot = some source →
      ReadsAs formula id .result (.ok (.passage source))
  | disconnected :
      formula.sourceAt? id inputSlot = none →
      ReadsAs formula id .result (.error (.missingResultInput id))
  | unsupported (tag : String) :
      ReadsAs formula id (.unsupported tag) (.error (.unsupported id tag))

theorem readsAs_reading (formula : Formula) (node : Node) :
    formula.ReadsAs node.id node.kind (formula.reading node) := by
  obtain ⟨id, kind⟩ := node
  cases kind with
  | «variable» name => exact .metric name
  | constant value => exact .literal value
  | operation operator => exact .fold operator
  | comparator condition =>
      rw [reading]
      cases left_connected : formula.sourceAt? id leftSlot with
      | none => exact .unpaired condition List.mem_cons_self left_connected
      | some left =>
          cases right_connected : formula.sourceAt? id rightSlot with
          | none =>
              exact .unpaired condition (List.mem_cons_of_mem _ List.mem_cons_self) right_connected
          | some right => exact .comparison condition left_connected right_connected
  | result =>
      rw [reading]
      cases connected : formula.sourceAt? id inputSlot with
      | none => exact .disconnected connected
      | some source => exact .passage connected
  | unsupported tag => exact .unsupported tag

theorem readsAs_of_readingOf {formula : Formula} {id : String} {reading : Reading String}
    (read : formula.readingOf id = .ok reading) :
    ∃ node, formula.node id = .ok node ∧ formula.ReadsAs id node.kind (.ok reading) := by
  revert read
  fun_cases readingOf formula id with
  | case1 => rintro ⟨⟩
  | case2 node found =>
      intro read
      have reads := readsAs_reading formula node
      rw [read, node_id found] at reads
      exact ⟨node, found, reads⟩

/-- A node that cannot be read is absent or fails for its kind. -/
theorem absent_or_readsAs_of_readingOf {formula : Formula} {id : String} {failure : Failure}
    (read : formula.readingOf id = .error failure) :
    formula.node? id = none ∧ failure = .unknownNode id ∨
      ∃ node, formula.node id = .ok node ∧ formula.ReadsAs id node.kind (.error failure) := by
  revert read
  fun_cases readingOf formula id with
  | case1 missing unfound =>
      rintro ⟨⟩
      revert unfound
      fun_cases Formula.node formula id with
      | case1 => rintro ⟨⟩
      | case2 absent =>
          rintro ⟨⟩
          exact Or.inl ⟨absent, rfl⟩
  | case2 node found =>
      intro read
      have reads := readsAs_reading formula node
      rw [read, node_id found] at reads
      exact Or.inr ⟨node, found, reads⟩

/-- The nodes that the evaluation of a node reads, in order. -/
def sources (formula : Formula) (id : String) : List String :=
  match formula.node id with
  | .error _ => []
  | .ok node =>
    match node.kind with
    | .operation _ => (formula.incoming id).map Connection.source
    | .comparator _ =>
      match formula.sourceAt? id leftSlot, formula.sourceAt? id rightSlot with
      | some left, some right => [left, right]
      | _, _ => []
    | .result => (formula.sourceAt? id inputSlot).toList
    | .variable _ | .constant _ | .unsupported _ => []

/-- The evaluation of a node reads a source. -/
def Follows (formula : Formula) (id source : String) : Prop :=
  source ∈ formula.sources id

/-- A chain of followed connections leads from a node to one that it rests on. -/
def Reaches (formula : Formula) : String → String → Prop :=
  Relation.ReflTransGen formula.Follows

theorem operands_eq_sources {formula : Formula} {id : String} {reading : Reading String}
    (read : formula.readingOf id = .ok reading) : reading.operands = formula.sources id := by
  obtain ⟨⟨_, kind⟩, found, reads⟩ := readsAs_of_readingOf read
  cases reads with
  | metric | literal | fold => simp only [sources, found, Reading.operands]
  | comparison condition left_connected right_connected =>
      simp only [sources, found, left_connected, right_connected, Reading.operands]
  | passage connected =>
      simp only [sources, found, connected, Option.toList_some, Reading.operands]

theorem readingOf_operation {formula : Formula} {id : String} {operator : Operator}
    (found : formula.node id = .ok ⟨id, .operation operator⟩) :
    formula.readingOf id = .ok (.fold operator (formula.sources id)) := by
  simp only [readingOf, reading, sources, found]

/-- A node that folds the values of its operands is an operation on its sources. -/
theorem operation_of_fold {formula : Formula} {id : String} {reading : Reading String}
    {amount : String → Number} {operator : Operator} {operands : List Number}
    (read : formula.readingOf id = .ok reading)
    (fold : reading.map amount = .fold operator operands) :
    formula.node id = .ok ⟨id, .operation operator⟩ ∧
      operands = (formula.sources id).map amount := by
  have sources_eq := operands_eq_sources read
  obtain ⟨⟨other, kind⟩, found, reads⟩ := readsAs_of_readingOf read
  obtain rfl : other = id := node_id found
  cases reads with
  | metric | literal | comparison | passage => cases fold
  | fold =>
      cases fold
      rw [← sources_eq]
      exact ⟨found, rfl⟩

theorem follows_iff {formula : Formula} {id : String} {reading : Reading String}
    (read : formula.readingOf id = .ok reading) (source : String) :
    formula.Follows id source ↔ source ∈ reading.operands := by
  rw [Follows, operands_eq_sources read]

theorem exists_connection_of_sourceAt? {formula : Formula} {id slot source : String}
    (connected : formula.sourceAt? id slot = some source) :
    ∃ connection ∈ formula.connections, connection.source = source ∧ connection.target = id := by
  rw [sourceAt?, Option.map_eq_some_iff] at connected
  obtain ⟨connection, first, rfl⟩ := connected
  obtain ⟨member, feeds⟩ := List.mem_filter.mp (List.mem_of_mem_head? first)
  have target : connection.target = id ∧ connection.slot = slot := by simpa using feeds
  exact ⟨connection, member, rfl, target.1⟩

/-- Every followed edge is a connection of the formula. -/
theorem exists_connection_of_follows {formula : Formula} {id source : String}
    (followed : formula.Follows id source) :
    ∃ connection ∈ formula.connections, connection.source = source ∧ connection.target = id := by
  revert followed
  unfold Follows
  fun_cases sources formula id with
  | case1 | case4 | case6 | case7 | case8 => rintro ⟨⟩
  | case2 =>
      intro followed
      obtain ⟨connection, member, rfl⟩ := List.mem_map.mp followed
      obtain ⟨member, feeds⟩ := List.mem_filter.mp member
      exact ⟨connection, member, rfl, by simpa using feeds⟩
  | case3 _ _ _ _ left right right_connected left_connected =>
      intro followed
      rw [List.mem_cons, List.mem_singleton] at followed
      rcases followed with rfl | rfl
      · exact exists_connection_of_sourceAt? left_connected
      · exact exists_connection_of_sourceAt? right_connected
  | case5 => exact fun followed => exists_connection_of_sourceAt? (Option.mem_toList.mp followed)

/-- Every connection into an operation is followed. -/
theorem follows_of_operation {formula : Formula} {connection : Connection}
    {operator : Operator} (connection_mem : connection ∈ formula.connections)
    (found : formula.node connection.target = .ok ⟨connection.target, .operation operator⟩) :
    formula.Follows connection.target connection.source := by
  simp only [Follows, sources, found]
  exact List.mem_map_of_mem (List.mem_filter.mpr ⟨connection_mem, decide_eq_true rfl⟩)

end Formula
end PayGraph
