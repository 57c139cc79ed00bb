import PayGraph.Proofs.TraceOrder

/-!
# What a success requires

An evaluation succeeds only if every node that the result node reaches comes to a value.  Each of
these nodes was read and concluded, after its sources; so none of them leads back to itself.
-/

namespace PayGraph
namespace Formula

/-- Some values of its operands allow a node to conclude its own. -/
def Computes (formula : Formula) (inputs : Inputs) (id : String) : Prop :=
  ∃ (reading : Reading String) (amount : String → Number) (value : Number) (step : Step),
    formula.readingOf id = .ok reading ∧ Concludes inputs id (reading.map amount) value step

/-- No evaluation on the inputs succeeds. -/
def Fails (formula : Formula) (inputs : Inputs) : Prop :=
  ∀ evaluation, formula.evaluate inputs = .ok evaluation → evaluation.succeeded = false

end Formula

variable {formula : Formula} {inputs : Inputs}

/-- Every finished node was read and concluded. -/
theorem Ledger.computes {memo : List (String × Number)} {steps : List Step}
    (ledger : Ledger formula inputs memo steps) :
    ∀ id ∈ memo.map Prod.fst, formula.Computes inputs id := by
  induction ledger with
  | nil => exact fun id member => absurd member List.not_mem_nil
  | snoc _ _ read _ concluded induction =>
      intro id member
      rcases List.mem_cons.mp member with rfl | member
      · exact ⟨_, _, _, _, read, Reading.concludes_of_conclude concluded⟩
      · exact induction id member

namespace Evaluation

variable {evaluation : Evaluation} {result id : String}

/-- A successful evaluation leaves a ledger of all nodes that the result node reaches. -/
theorem exists_ledger_of_reaches (returns : formula.evaluate inputs = .ok evaluation)
    (succeeded : evaluation.succeeded = true) (resolved : formula.resultNode = .ok result)
    (reach : formula.Reaches result id) :
    ∃ memo steps, Ledger formula inputs memo steps ∧ id ∈ memo.map Prod.fst := by
  obtain ⟨start, progress, start_resolved, settles, _, _⟩ := settles_of_succeeded returns succeeded
  rw [resolved] at start_resolved
  cases start_resolved
  have ledger := settles.ledger .nil
  refine ⟨progress.memo, progress.trace.steps, ledger, ?_⟩
  rw [← ledger.mem_nodes_iff, mem_nodes_iff_reaches settles]
  exact reach

theorem computes_of_reaches (returns : formula.evaluate inputs = .ok evaluation)
    (succeeded : evaluation.succeeded = true) (resolved : formula.resultNode = .ok result)
    (reach : formula.Reaches result id) : formula.Computes inputs id := by
  obtain ⟨memo, steps, ledger, finished⟩ :=
    exists_ledger_of_reaches returns succeeded resolved reach
  exact ledger.computes id finished

end Evaluation

namespace Formula

variable {result id : String}

/-- A reached node that can come to no value rules out success. -/
theorem fails_of_not_computes (resolved : formula.resultNode = .ok result)
    (reach : formula.Reaches result id) (hopeless : ¬formula.Computes inputs id) :
    formula.Fails inputs := by
  intro evaluation returns
  rw [Bool.eq_false_iff]
  intro succeeded
  exact hopeless (Evaluation.computes_of_reaches returns succeeded resolved reach)

/-- A reached node that leads back to itself rules out success. -/
theorem fails_of_leads_back (resolved : formula.resultNode = .ok result)
    (reach : formula.Reaches result id) (leads : Relation.TransGen formula.Follows id id) :
    formula.Fails inputs := by
  intro evaluation returns
  rw [Bool.eq_false_iff]
  intro succeeded
  obtain ⟨memo, steps, ledger, finished⟩ :=
    Evaluation.exists_ledger_of_reaches returns succeeded resolved reach
  exact ledger.layered.acyclic finished leads

/-- Without a result node there is no success. -/
theorem fails_of_unresolved {failure : Failure}
    (unresolved : formula.resultNode = .error failure) : formula.Fails inputs := by
  intro evaluation returns
  rw [Bool.eq_false_iff]
  intro succeeded
  obtain ⟨result, _, resolved, _⟩ := Evaluation.settles_of_succeeded returns succeeded
  rw [unresolved] at resolved
  cases resolved

end Formula
end PayGraph
