import PayGraph.Proofs.Standalone
import PayGraph.Proofs.Written

/-!
# Folding a node into a constant

A node that came to a value may be replaced by a constant of that value.  The amount stays, and so
does every line about another node, although fewer nodes are read and perhaps in another order: the
ledger of an evaluation, with the line of the constant in place of the line of the node, is a ledger
of the changed formula.
-/

namespace PayGraph

/-- The node as a constant if it has the identifier, else as it is. -/
def Node.freeze (id : String) (value : Number) (node : Node) : Node :=
  if node.id = id then { node with kind := .constant value } else node

@[simp] theorem Node.freeze_id (id : String) (value : Number) (node : Node) :
    (node.freeze id value).id = node.id := by
  rw [freeze]
  split <;> rfl

namespace Formula

theorem map_id_freeze (id : String) (value : Number) (nodes : List Node) :
    (nodes.map (Node.freeze id value)).map Node.id = nodes.map Node.id := by
  simp

/-- The formula with a constant in place of a node. -/
def freeze (formula : Formula) (id : String) (value : Number) : Formula :=
  { formula with
    nodes := formula.nodes.map (Node.freeze id value)
    distinct := (map_id_freeze id value formula.nodes).symm ▸ formula.distinct }

variable {formula : Formula} {id other : String} {value : Number}

theorem freeze_node? (formula : Formula) (id other : String) (value : Number) :
    (formula.freeze id value).node? other = (formula.node? other).map (Node.freeze id value) := by
  rw [node?, node?, freeze, List.find?_map]
  congr 2
  funext node
  simp

theorem freeze_readingOf_self {node : Node} (found : formula.node id = .ok node) :
    (formula.freeze id value).readingOf id = .ok (.literal value) := by
  have frozen : node.freeze id value = ⟨node.id, .constant value⟩ := by
    rw [Node.freeze, if_pos (node_id found)]
  rw [readingOf, Formula.node, freeze_node?, node?_of_node found, Option.map_some, frozen]
  rfl

theorem freeze_readingOf_of_ne (value : Number) (differs : other ≠ id) :
    (formula.freeze id value).readingOf other = formula.readingOf other := by
  rw [readingOf, readingOf, Formula.node, Formula.node, freeze_node?]
  cases found : formula.node? other with
  | none => rfl
  | some node =>
      have at_other : node.id = other := by
        rw [node?] at found
        simpa using List.find?_some found
      rw [Option.map_some, Node.freeze, if_neg (by rwa [at_other])]
      -- The connections are the same, and a reading asks for nothing else.
      rfl

end Formula

variable {formula : Formula} {inputs : Inputs}

/-- A ledger of a formula is one of the formula with a finished node frozen to its value: the memo
stays, and so do the lines about other nodes. -/
theorem Ledger.freeze {memo : List (String × Number)} {steps : List Step}
    (ledger : Ledger formula inputs memo steps) {id : String} {value : Number}
    (finished_as : ∀ found, memo.lookup id = some found → found = value) :
    ∃ lines, Ledger (formula.freeze id value) inputs memo lines ∧
      ∀ line ∈ lines, line.node ≠ id → line ∈ steps := by
  induction ledger with
  | nil => exact ⟨[], .nil, fun line line_mem => absurd line_mem List.not_mem_nil⟩
  | @snoc memo steps newest reading amount step _ unfinished read known concluded induction =>
      have concludes := Reading.concludes_of_conclude concluded
      by_cases same : newest = id
      · subst same
        obtain rfl : amount = value := finished_as amount List.lookup_cons_self
        obtain ⟨lines, frozen, kept⟩ := induction fun found already => by
          rw [unfinished] at already
          cases already
        obtain ⟨node, found, _⟩ := Formula.readsAs_of_readingOf read
        obtain ⟨text, shown⟩ := concludes.isWritten
        refine ⟨_, frozen.snoc unfinished (Formula.freeze_readingOf_self found) nofun
          (Concludes.literal shown).conclude_eq, fun line line_mem elsewhere => ?_⟩
        rcases List.mem_append.mp line_mem with old | new
        · exact List.mem_append_left _ (kept line old elsewhere)
        · rw [List.mem_singleton.mp new] at elsewhere
          exact absurd rfl elsewhere
      · obtain ⟨lines, frozen, kept⟩ := induction fun found already => by
          refine finished_as found ?_
          rw [List.lookup_cons, beq_eq_false_iff_ne.mpr (Ne.symm same)]
          exact already
        rw [← Formula.freeze_readingOf_of_ne value same] at read
        refine ⟨_, frozen.snoc unfinished read known concluded, fun line line_mem elsewhere => ?_⟩
        rcases List.mem_append.mp line_mem with old | new
        · exact List.mem_append_left _ (kept line old elsewhere)
        · exact List.mem_append_right _ new

namespace Evaluation

variable {evaluation : Evaluation} {step : Step} {result : String}

/-- Freezing a node to the value that its line passes on keeps the amount and every line about
another node; only the frames may run out. -/
theorem amount_survives_folding (named : result ≠ "") (explicit : formula.result? = some result)
    (returns : formula.evaluate inputs = .ok evaluation) (succeeded : evaluation.succeeded = true)
    (step_mem : step ∈ evaluation.steps)
    (shallow : ((formula.freeze step.node (formula.passedOn step)).run inputs).1 ≠
      .error (.failed .tooDeep)) :
    ∃ folded,
      (formula.freeze step.node (formula.passedOn step)).evaluate inputs = .ok folded ∧
        folded.succeeded = true ∧ folded.value = evaluation.value ∧
        ∀ line ∈ folded.steps, line.node ≠ step.node → line ∈ evaluation.steps := by
  have resolved := Formula.resultNode_of_named explicit named
  obtain ⟨start, progress, start_resolved, settles, steps_eq, found⟩ :=
    settles_of_succeeded returns succeeded
  rw [resolved] at start_resolved
  cases start_resolved
  have ledger := settles.ledger .nil
  rw [← steps_eq] at ledger
  have passed := ledger.lookup_of_line step_mem
  obtain ⟨lines, frozen, kept⟩ := ledger.freeze fun value already =>
    Option.some.inj (already.symm.trans passed)
  have frozen_resolved : (formula.freeze step.node (formula.passedOn step)).resultNode =
      .ok result := Formula.resultNode_of_named explicit named
  obtain ⟨folded, evaluated, folded_settles⟩ := Formula.evaluate_of_unshared frozen_resolved
    (frozen.unshared_eq found (by nofun)) shallow
  refine ⟨_, evaluated, rfl, rfl, fun line line_mem elsewhere => ?_⟩
  exact kept line (frozen.mem_of_settles folded_settles ⟨_, found⟩ line_mem) elsewhere

/-- A premium for each reservation of a class that is full. -/
def premium : Formula where
  id := "premium"
  name := "Premium"
  nodes := [⟨"reserved", .variable "reservaciones"⟩, ⟨"goal", .constant (.integer 20)⟩,
    ⟨"full", .comparator .greaterThan⟩, ⟨"pay", .operation .multiplication⟩, ⟨"amount", .result⟩]
  connections := [⟨"c1", "full", "pay", outputSlot, inputSlot⟩,
    ⟨"c2", "reserved", "pay", outputSlot, inputSlot⟩,
    ⟨"c3", "reserved", "full", outputSlot, leftSlot⟩,
    ⟨"c4", "goal", "full", outputSlot, rightSlot⟩,
    ⟨"c5", "pay", "amount", outputSlot, inputSlot⟩]
  result? := some "amount"
  distinct := by decide

/-- With its comparison frozen to one, the premium no longer reads the goal and reads the reserved
places later, but comes to the same amount by the same lines. -/
theorem premium_full_folded :
    ∃ original folded, premium.evaluate [("reservaciones", .integer 25)] = .ok original ∧
      (premium.freeze "full" (.integer 1)).evaluate [("reservaciones", .integer 25)] =
        .ok folded ∧
      folded.value = original.value ∧
      ∀ line ∈ folded.steps, line.node ≠ "full" → line ∈ original.steps := by
  have returns : premium.evaluate [("reservaciones", .integer 25)] = .ok ⟨.integer 25, [
      .ordinary "reserved" "Variable reservaciones: 25" (.integer 25),
      .ordinary "goal" "Número constante: 20" (.integer 20),
      .ordinary "full" "Comparación: 25 > 20 = 1" (.boolean true),
      .ordinary "pay" "Operación multiplicacion: [1, 25] = 25" (.integer 25),
      .ordinary "amount" "Resultado final: 25" (.integer 25)], none⟩ := by
    decide +kernel
  have shallow : ((premium.freeze "full" (.integer 1)).run [("reservaciones", .integer 25)]).1 ≠
      .error (.failed .tooDeep) := by
    decide +kernel
  obtain ⟨folded, evaluated, _, value_eq, lines_kept⟩ := amount_survives_folding (by decide) rfl
    returns rfl
    (show .ordinary "full" "Comparación: 25 > 20 = 1" (.boolean true) ∈ _ by decide) shallow
  exact ⟨_, folded, returns, evaluated, value_eq, lines_kept⟩

end Evaluation
end PayGraph
