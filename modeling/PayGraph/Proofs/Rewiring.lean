import PayGraph.Proofs.Likeness
import PayGraph.Proofs.TraceOrder

/-!
# Rewired formulas

An evaluation sees the connections of a formula only through the sources that its nodes find there:
all of them in order for an operation, the first on each side for a comparator and the first on the
input for a result node.  So connections into different nodes may change places, identifiers and
outlets may change, and connections that nobody reads may be added.
-/

namespace PayGraph
namespace Kind

/-- A node of this kind reads no connection. -/
def isLeaf : Kind → Bool
  | .variable _ | .constant _ => true
  | _ => false

/-- A node of this kind reads the first connection into a slot. -/
def isSlotted : Kind → Bool
  | .comparator _ | .result => true
  | _ => false

end Kind

namespace Formula

/-- Two formulas have the same node under each identifier and the same result node, and their nodes
find the same sources on the connections that they read. -/
structure SameSources (formula other : Formula) : Prop where
  nodes : ∀ id, other.node? id = formula.node? id
  result : other.resultNode = formula.resultNode
  operands : ∀ id operator, formula.node? id = some ⟨id, .operation operator⟩ →
    (other.incoming id).map Connection.source = (formula.incoming id).map Connection.source
  left : ∀ id condition, formula.node? id = some ⟨id, .comparator condition⟩ →
    other.sourceAt? id leftSlot = formula.sourceAt? id leftSlot
  right : ∀ id condition, formula.node? id = some ⟨id, .comparator condition⟩ →
    other.sourceAt? id rightSlot = formula.sourceAt? id rightSlot
  input : ∀ id, formula.node? id = some ⟨id, .result⟩ →
    other.sourceAt? id inputSlot = formula.sourceAt? id inputSlot

variable {formula other : Formula}

namespace SameSources

theorem readingOf_eq (same : SameSources formula other) (id : String) :
    other.readingOf id = formula.readingOf id := by
  have same_node : other.node id = formula.node id := by rw [node, node, same.nodes]
  rw [readingOf, readingOf, same_node]
  cases found : formula.node id with
  | error failure => rfl
  | ok node =>
      have looked_up := node?_of_node found
      obtain ⟨other_id, kind⟩ := node
      obtain rfl : other_id = id := node_id found
      cases kind with
      | «variable» | constant | unsupported => rfl
      | operation operator => simp only [reading, same.operands other_id operator looked_up]
      | comparator condition =>
          simp only [reading, same.left other_id condition looked_up,
            same.right other_id condition looked_up]
      | result => simp only [reading, same.input other_id looked_up]

theorem evaluate_eq (same : SameSources formula other) (inputs : Inputs) :
    other.evaluate inputs = formula.evaluate inputs := by
  have alike : ReadAlike (fun _ => True) formula inputs other inputs :=
    ⟨fun id _ => same.readingOf_eq id, fun _ _ _ _ => trivial, fun _ _ _ _ => rfl⟩
  exact alike.evaluate_eq same.result fun _ _ => trivial

end SameSources

/-- The formula with other connections. -/
def rewire (formula : Formula) (connections : List Connection) : Formula :=
  { formula with connections }

/-- A change of the connections of a formula that none of its nodes can see. -/
inductive Rewiring (formula : Formula) : List Connection → List Connection → Prop
  /-- Connections into different nodes change places. -/
  | reorder {connections others : List Connection} :
      (∀ target, (others.filter fun connection => connection.target = target) =
        connections.filter fun connection => connection.target = target) →
      Rewiring formula connections others
  /-- A connection changes its identifier and its outlet, and its slot if it leads into an
  operation. -/
  | relabel (front back : List Connection) {connection other : Connection} :
      other.source = connection.source →
      other.target = connection.target →
      (other.slot = connection.slot ∨ ∃ operator,
        formula.node? connection.target = some ⟨connection.target, .operation operator⟩) →
      Rewiring formula (front ++ connection :: back) (front ++ other :: back)
  /-- A connection into a variable or a constant is added. -/
  | leaf (front back : List Connection) {connection : Connection} {kind : Kind} :
      formula.node? connection.target = some ⟨connection.target, kind⟩ →
      kind.isLeaf = true →
      Rewiring formula (front ++ back) (front ++ connection :: back)
  /-- A connection into a slot of a comparator or a result node is added after another one. -/
  | occupied (front back : List Connection) {earlier connection : Connection} {kind : Kind} :
      formula.node? connection.target = some ⟨connection.target, kind⟩ →
      kind.isSlotted = true →
      earlier ∈ front →
      earlier.target = connection.target →
      earlier.slot = connection.slot →
      Rewiring formula (front ++ back) (front ++ connection :: back)

theorem head?_filter_insert {front back : List Connection} {connection : Connection}
    {feeds : Connection → Bool}
    (unneeded : feeds connection = true → ∃ earlier ∈ front, feeds earlier = true) :
    ((front ++ connection :: back).filter feeds).head? =
      ((front ++ back).filter feeds).head? := by
  rw [List.filter_append, List.filter_append, List.head?_append, List.head?_append]
  cases listed : front.filter feeds with
  | cons first rest => rfl
  | nil =>
      have unfed : ¬feeds connection = true := by
        intro fed
        obtain ⟨earlier, earlier_mem, earlier_feeds⟩ := unneeded fed
        exact List.filter_eq_nil_iff.mp listed earlier earlier_mem earlier_feeds
      rw [List.filter_cons_of_neg unfed]

theorem map_source_filter_replace {front back : List Connection} {connection other : Connection}
    {feeds : Connection → Bool} (same_source : other.source = connection.source)
    (same_feeds : feeds other = feeds connection) :
    ((front ++ other :: back).filter feeds).map Connection.source =
      ((front ++ connection :: back).filter feeds).map Connection.source := by
  cases fed : feeds connection <;> rw [fed] at same_feeds <;> simp [fed, same_feeds, same_source]

/-- Rewired formulas have the same sources if their operations and their slots do. -/
theorem sameSources_rewire {connections others : List Connection}
    (operands : ∀ id operator, formula.node? id = some ⟨id, .operation operator⟩ →
      ((formula.rewire others).incoming id).map Connection.source =
        ((formula.rewire connections).incoming id).map Connection.source)
    (first : ∀ id kind slot, formula.node? id = some ⟨id, kind⟩ → kind.isSlotted = true →
      (formula.rewire others).sourceAt? id slot = (formula.rewire connections).sourceAt? id slot) :
    SameSources (formula.rewire connections) (formula.rewire others) where
  nodes _ := rfl
  result := rfl
  operands := operands
  left id condition found := first id (.comparator condition) leftSlot found rfl
  right id condition found := first id (.comparator condition) rightSlot found rfl
  input id found := first id .result inputSlot found rfl

/-- A connection that is added changes nothing if it leads into no operation and no empty slot. -/
theorem sameSources_insert {front back : List Connection} {connection : Connection} {kind : Kind}
    (found : formula.node? connection.target = some ⟨connection.target, kind⟩)
    (plain : ∀ operator, kind ≠ .operation operator)
    (unneeded : kind.isSlotted = true →
      ∃ earlier ∈ front, earlier.target = connection.target ∧ earlier.slot = connection.slot) :
    SameSources (formula.rewire (front ++ back))
      (formula.rewire (front ++ connection :: back)) := by
  refine sameSources_rewire (fun id operator at_id => ?_) fun id other slot at_id slotted => ?_
  · have elsewhere : connection.target ≠ id := by
      rintro rfl
      rw [found] at at_id
      cases at_id
      exact plain operator rfl
    simp [incoming, rewire, elsewhere]
  · have same_first : ((formula.rewire (front ++ connection :: back)).incomingAt id slot).head? =
        ((formula.rewire (front ++ back)).incomingAt id slot).head? := by
      refine head?_filter_insert fun feeds => ?_
      rw [Bool.and_eq_true, decide_eq_true_eq, decide_eq_true_eq] at feeds
      obtain ⟨rfl, rfl⟩ := feeds
      rw [found] at at_id
      cases at_id
      obtain ⟨earlier, earlier_mem, same_target, same_slot⟩ := unneeded slotted
      exact ⟨earlier, earlier_mem, by simp [same_target, same_slot]⟩
    rw [sourceAt?, sourceAt?, same_first]

/-- After a change that no node can see, the nodes find the same sources. -/
theorem Rewiring.sameSources {connections others : List Connection}
    (rewiring : formula.Rewiring connections others) :
    SameSources (formula.rewire connections) (formula.rewire others) := by
  cases rewiring with
  | reorder same =>
      refine sameSources_rewire (fun id _ _ => ?_) fun id _ slot _ _ => ?_
      · exact congrArg (List.map Connection.source) (same id)
      · have same_slot : (formula.rewire others).incomingAt id slot =
            (formula.rewire connections).incomingAt id slot := by
          simp only [incomingAt, rewire, Bool.and_comm (decide (Connection.target _ = id)),
            ← List.filter_filter, same id]
        rw [sourceAt?, sourceAt?, same_slot]
  | @relabel front back connection other same_source same_target same_slot =>
      refine sameSources_rewire (fun id _ _ => ?_) fun id kind slot at_id slotted => ?_
      · exact map_source_filter_replace same_source (by rw [same_target])
      · rw [sourceAt?, sourceAt?, ← List.head?_map, ← List.head?_map]
        refine congrArg List.head? (map_source_filter_replace same_source ?_)
        rw [same_target]
        by_cases into : connection.target = id
        · have kept : other.slot = connection.slot := by
            refine same_slot.resolve_right ?_
            rintro ⟨operator, found⟩
            rw [into, at_id] at found
            cases found
            cases slotted
          rw [kept]
        · simp [into]
  | @leaf front back connection kind found leaf =>
      cases kind with
      | «variable» | constant =>
          refine sameSources_insert found ?_ fun slotted => absurd slotted Bool.false_ne_true
          rintro operator ⟨⟩
      | operation | comparator | result | unsupported => cases leaf
  | @occupied front back earlier connection kind found slotted earlier_mem same_target same_slot =>
      refine sameSources_insert found ?_ fun _ => ⟨earlier, earlier_mem, same_target, same_slot⟩
      rintro operator rfl
      cases slotted

theorem evaluate_rewire {connections : List Connection} (inputs : Inputs)
    (rewirings : Relation.ReflTransGen formula.Rewiring formula.connections connections) :
    (formula.rewire connections).evaluate inputs = formula.evaluate inputs := by
  induction rewirings with
  | refl => rfl
  | tail _ rewiring induction => rw [rewiring.sameSources.evaluate_eq, induction]

/-- An evaluation depends on the connections only through the sources of each node: formulas with
the same sources are evaluated to the same amount, lines and failure or to the same number that
cannot be written, and so is a formula after any changes that its nodes cannot see. -/
theorem evaluate_rests_on_sources (formula : Formula) (inputs : Inputs) :
    (∀ other, SameSources formula other → other.evaluate inputs = formula.evaluate inputs) ∧
      ∀ connections, Relation.ReflTransGen formula.Rewiring formula.connections connections →
        (formula.rewire connections).evaluate inputs = formula.evaluate inputs :=
  ⟨fun _ same => same.evaluate_eq inputs, fun _ rewirings => evaluate_rewire inputs rewirings⟩

/-- A connection into a variable and a second one into the result node change no bonus. -/
theorem bonus_rewired :
    (Evaluation.bonus.rewire (⟨"c6", "spare", "reserved", outputSlot, inputSlot⟩ ::
        Evaluation.bonus.connections ++
          [⟨"c7", "spare", "amount", outputSlot, inputSlot⟩])).evaluate
            [("reservaciones", .integer 25)] =
      Evaluation.bonus.evaluate [("reservaciones", .integer 25)] := by
  have reserved : Evaluation.bonus.node? "reserved" =
      some ⟨"reserved", .variable "reservaciones"⟩ := by decide
  have amount : Evaluation.bonus.node? "amount" = some ⟨"amount", .result⟩ := by decide
  have into_variable : Evaluation.bonus.Rewiring Evaluation.bonus.connections
      (⟨"c6", "spare", "reserved", outputSlot, inputSlot⟩ :: Evaluation.bonus.connections) :=
    .leaf [] Evaluation.bonus.connections reserved rfl
  have first : (⟨"c5", "pay", "amount", outputSlot, inputSlot⟩ : Connection) ∈
      ⟨"c6", "spare", "reserved", outputSlot, inputSlot⟩ :: Evaluation.bonus.connections := by
    decide
  apply (evaluate_rests_on_sources Evaluation.bonus _).2
  refine .tail (.single into_variable) ?_
  rw [← List.append_nil (_ :: Evaluation.bonus.connections)]
  exact .occupied _ [] amount rfl first rfl rfl

end Formula
end PayGraph
