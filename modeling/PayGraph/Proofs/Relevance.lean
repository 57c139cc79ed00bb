import PayGraph.Proofs.Association
import PayGraph.Proofs.Idle
import PayGraph.Proofs.Likeness
import PayGraph.Proofs.TraceOrder

/-!
# Metrics that matter

An evaluation can read a metric only at a variable that the result node is or rests on.  Inputs that
agree on the metrics of these variables cannot be told apart; an absent metric is the number zero,
and a metric that no such variable names may have any value or none.
-/

namespace PayGraph
namespace Inputs

theorem lookup_insert (inputs : Inputs) (name other : String) (value : Number) :
    (inputs.insert name value).lookup other =
      if other = name then some value else inputs.lookup other := by
  have listed_iff : (inputs.any fun entry => entry.1 = name) = true ↔
      name ∈ inputs.map Prod.fst := by
    simp
  rw [insert]
  split
  · exact Association.lookup_replace (listed_iff.mp ‹_›) value other
  · exact Association.lookup_append_single (mt listed_iff.mpr ‹_›) value other

theorem valueOf_insert (inputs : Inputs) (name other : String) (value : Number) :
    (inputs.insert name value).valueOf other =
      if other = name then value else inputs.valueOf other := by
  rw [valueOf, valueOf, lookup_insert]
  split <;> rfl

end Inputs

namespace Formula

open DependencyGraph

/-- The result node, or one of its ancestors in the dependency graph, is a variable of the name. -/
def Uses (formula : Formula) (name : String) : Prop :=
  ∃ result id, formula.resultNode = .ok result ∧
    (id = result ∨ id ∈ (ofFormula formula).ancestors result) ∧
    formula.node id = .ok ⟨id, .variable name⟩

variable {formula : Formula} {inputs others : Inputs}

/-- A formula reads alike, at every node that feeds its result node, on inputs that agree on the
metrics that it uses. -/
theorem readAlike_of_agree {result : String} (resolved : formula.resultNode = .ok result)
    (agree : ∀ name, formula.Uses name → others.valueOf name = inputs.valueOf name) :
    ReadAlike (formula.FedBy result) formula inputs formula others where
  same _ _ := rfl
  closed _ fed _ followed := fed.tail (exists_connection_of_follows followed)
  metrics id fed name read := by
    obtain ⟨⟨other, kind⟩, found, reads⟩ := readsAs_of_readingOf read
    obtain rfl : other = id := node_id found
    cases reads
    exact agree name ⟨result, other, resolved, fedBy_iff.mp fed, found⟩

/-- Inputs that agree on the metrics that a formula uses lead to the same outcome. -/
theorem evaluate_congr
    (agree : ∀ name, formula.Uses name → others.valueOf name = inputs.valueOf name) :
    formula.evaluate others = formula.evaluate inputs := by
  cases resolved : formula.resultNode with
  | ok result =>
      refine (readAlike_of_agree resolved agree).evaluate_eq rfl fun other other_resolved => ?_
      rw [resolved] at other_resolved
      cases other_resolved
      exact .refl
  | error failure => rw [evaluate, evaluate, run, run, resolved]

/-- Only the metrics that feed the result matter: inputs that agree on them lead to the same amount,
lines and failure or to the same number that cannot be written.  So an absent metric may as well be
zero, and a metric that the formula does not use may be given any value. -/
theorem evaluate_rests_on_used_metrics (formula : Formula) (inputs : Inputs) :
    (∀ others : Inputs,
        (∀ name, formula.Uses name → others.valueOf name = inputs.valueOf name) →
        formula.evaluate others = formula.evaluate inputs) ∧
      (∀ name, inputs.lookup name = none →
        formula.evaluate (inputs.insert name .zero) = formula.evaluate inputs) ∧
      (∀ name value, ¬formula.Uses name →
        formula.evaluate (inputs.insert name value) = formula.evaluate inputs) := by
  refine ⟨fun others agree => evaluate_congr agree, fun name absent => ?_,
    fun name value unused => ?_⟩
  · apply evaluate_congr
    intro other _
    rw [Inputs.valueOf_insert]
    split
    · rename_i same
      rw [same, Inputs.valueOf, absent, Option.getD_none]
    · rfl
  · apply evaluate_congr
    intro other used
    have differs : other ≠ name := by
      rintro rfl
      exact unused used
    rw [Inputs.valueOf_insert, if_neg differs]

/-- A formula with a variable that is read by none of its nodes. -/
def unheeded : Formula where
  id := "unheeded"
  name := "Unheeded"
  nodes := [⟨"classes", .variable "clases"⟩, ⟨"waiting", .variable "listaEspera"⟩,
    ⟨"amount", .result⟩]
  connections := [⟨"c1", "classes", "waiting", outputSlot, inputSlot⟩,
    ⟨"c2", "classes", "amount", outputSlot, inputSlot⟩]
  result? := none
  distinct := by decide

/-- A value of that metric changes nothing. -/
theorem unheeded_rests_on_classes :
    unheeded.evaluate (Inputs.insert [("clases", .integer 3)] "listaEspera" (.integer 5)) =
      unheeded.evaluate [("clases", .integer 3)] := by
  refine (evaluate_rests_on_used_metrics unheeded _).2.2 "listaEspera" (.integer 5) ?_
  rintro ⟨result, id, resolved, feeds, found⟩
  have amount : unheeded.resultNode = .ok "amount" := by decide
  rw [amount] at resolved
  cases resolved
  -- Only the classes stand at the source of a connection.
  rcases Relation.ReflTransGen.cases_tail (fedBy_iff.mpr feeds) with rfl | ⟨target, _, joined⟩
  · exact absurd found (by decide)
  · obtain ⟨connection, connection_mem, rfl, _⟩ := joined
    have source : ∀ other ∈ unheeded.connections, other.source = "classes" := by decide
    rw [source connection connection_mem] at found
    exact absurd found (by decide)

end Formula
end PayGraph
