import Mathlib
import PayGraph.Proofs.Idle

/-!
# Unused nodes

A successful evaluation leaves some nodes without a line.  The checks warn about such a node unless
a chain of connections leads from it into a node with a line; the connection at which the chain
enters is then one that the evaluation passes by.
-/

namespace PayGraph

/-- A path that begins inside a set and ends outside of it leaves the set at some edge. -/
theorem exists_exit {Vertex : Type*} {edge : Vertex → Vertex → Prop} {inside : Vertex → Prop}
    {start final : Vertex} (path : Relation.ReflTransGen edge start final) (start_in : inside start)
    (final_out : ¬inside final) :
    ∃ last next, inside last ∧ edge last next ∧ ¬inside next ∧
      Relation.ReflTransGen edge next final := by
  induction path using Relation.ReflTransGen.head_induction_on with
  | refl => exact absurd start_in final_out
  | @head start next first rest induction =>
      by_cases next_in : inside next
      · exact induction next_in
      · exact ⟨start, next, start_in, first, next_in, rest⟩

namespace Evaluation

/-- The evaluation passes by a connection into a node that has a line: the source has none. -/
structure PassesBy (evaluation : Evaluation) (connection : Connection) : Prop where
  target_traced : connection.target ∈ evaluation.steps.map Step.node
  source_untraced : connection.source ∉ evaluation.steps.map Step.node

variable {formula : Formula} {inputs : Inputs} {evaluation : Evaluation}

/-- The lines of a successful evaluation are about what the result node reaches, itself included. -/
theorem exists_result_of_succeeded (returns : formula.evaluate inputs = .ok evaluation)
    (succeeded : evaluation.succeeded = true) :
    ∃ result, formula.resultNode = .ok result ∧ formula.hasNode result = true ∧
      ∀ id, id ∈ evaluation.steps.map Step.node ↔ formula.Reaches result id := by
  obtain ⟨result, progress, resolved, settles, steps_eq, _⟩ :=
    settles_of_succeeded returns succeeded
  obtain ⟨reading, _, _, _, read, _⟩ := computes_of_reaches returns succeeded resolved .refl
  obtain ⟨node, found, _⟩ := Formula.readsAs_of_readingOf read
  refine ⟨result, resolved, ?_, ?_⟩
  · rw [Formula.hasNode, Formula.node?_of_node found]
    rfl
  · rw [steps_eq]
    exact mem_nodes_iff_reaches settles

/-- A connection that a successful evaluation passes by is not followed, so it does not lead into
an operation. -/
theorem PassesBy.unfollowed (returns : formula.evaluate inputs = .ok evaluation)
    (succeeded : evaluation.succeeded = true) {connection : Connection}
    (passes : evaluation.PassesBy connection) :
    ¬formula.Follows connection.target connection.source := by
  intro followed
  obtain ⟨result, _, _, traced_iff⟩ := exists_result_of_succeeded returns succeeded
  have reach := (traced_iff connection.target).mp passes.target_traced
  exact passes.source_untraced ((traced_iff connection.source).mpr (reach.tail followed))

/-- A node without a line in a successful evaluation is reported as idle, unless it feeds the source
of a connection that the evaluation passes by.  Such a connection is not followed and does not lead
into an operation. -/
theorem unused_idle_iff (returns : formula.evaluate inputs = .ok evaluation)
    (succeeded : evaluation.succeeded = true) {id : String}
    (listed : id ∈ formula.nodes.map Node.id)
    (unused : id ∉ evaluation.steps.map Step.node) :
    (formula.Idle id ↔ ¬∃ connection ∈ formula.connections,
        evaluation.PassesBy connection ∧ formula.FedBy connection.source id) ∧
      ∀ connection ∈ formula.connections, evaluation.PassesBy connection →
        ¬formula.Follows connection.target connection.source ∧
          ∀ operator, formula.node connection.target ≠
            .ok ⟨connection.target, .operation operator⟩ := by
  obtain ⟨result, resolved, present, traced_iff⟩ := exists_result_of_succeeded returns succeeded
  refine ⟨⟨?_, ?_⟩, ?_⟩
  · rintro idle ⟨connection, connection_mem, passes, fed⟩
    have target_reached := (traced_iff connection.target).mp passes.target_traced
    have source_fed : formula.FedBy result connection.source :=
      (Formula.fedBy_of_reaches target_reached).tail ⟨connection, connection_mem, rfl, rfl⟩
    exact Formula.not_idle_of_fedBy resolved (source_fed.trans fed) idle
  · intro none_passed
    refine Formula.idle_iff.mpr ⟨listed, result, resolved, present, fun fed => none_passed ?_⟩
    have result_traced := (traced_iff result).mpr .refl
    obtain ⟨_, _, traced, ⟨connection, connection_mem, rfl, rfl⟩, untraced, source_fed⟩ :=
      exists_exit fed result_traced unused
    exact ⟨connection, connection_mem, ⟨traced, untraced⟩, source_fed⟩
  · intro connection connection_mem passes
    have unfollowed := passes.unfollowed returns succeeded
    exact ⟨unfollowed, fun _ operation =>
      unfollowed (Formula.follows_of_operation connection_mem operation)⟩

/-- The bonus passes by no connection, so the node without a line is reported. -/
theorem bonus_spare_idle : bonus.Idle "spare" := by
  have returns : bonus.evaluate [("reservaciones", .integer 25)] = .ok ⟨.integer 25, [
      .ordinary "reserved" "Variable reservaciones: 25" (.integer 25),
      .ordinary "goal" "Número constante: 20" (.integer 20),
      .ordinary "full" "Comparación: 25 > 20 = 1" (.boolean true),
      .ordinary "pay" "Operación multiplicacion: [25, 1] = 25" (.integer 25),
      .ordinary "amount" "Resultado final: 25" (.integer 25)], none⟩ := by
    decide +kernel
  refine (unused_idle_iff returns rfl (by decide) (by decide)).1.mpr ?_
  rintro ⟨connection, connection_mem, passes, _⟩
  have all_traced : ∀ connection ∈ bonus.connections,
      connection.source ∈ ["reserved", "goal", "full", "pay", "amount"] := by
    decide
  exact passes.source_untraced (all_traced connection connection_mem)

/-- A constant that leads into a metric, which does not read it. -/
def sidelong : Formula where
  id := "sidelong"
  name := "Sidelong"
  nodes := [⟨"spare", .constant (.integer 7)⟩, ⟨"classes", .variable "clases"⟩, ⟨"amount", .result⟩]
  connections := [⟨"c1", "spare", "classes", outputSlot, inputSlot⟩,
    ⟨"c2", "classes", "amount", outputSlot, inputSlot⟩]
  result? := none
  distinct := by decide

/-- The checks find nothing wrong although the constant is never used. -/
theorem sidelong_unreported :
    sidelong.issues = [] ∧ "spare" ∈ sidelong.nodes.map Node.id ∧ ¬sidelong.Idle "spare" ∧
      sidelong.evaluate [("clases", .integer 3)] = .ok ⟨.integer 3, [
        .ordinary "classes" "Variable clases: 3" (.integer 3),
        .ordinary "amount" "Resultado final: 3" (.integer 3)], none⟩ := by
  have clean : sidelong.issues = [] := by
    cbv
  refine ⟨clean, by decide, ?_, by decide +kernel⟩
  rw [Formula.Idle, clean]
  exact List.not_mem_nil

end Evaluation
end PayGraph
