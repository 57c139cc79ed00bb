import PayGraph.Proofs.Prediction
import PayGraph.Proofs.Success

/-!
# Exactness of cycle detection

An evaluation reports a cycle only at a node that leads back to itself along followed connections,
and no evaluation that reaches such a node succeeds.
-/

namespace PayGraph
namespace Formula

variable {formula : Formula} {inputs : Inputs} {id : String}

theorem readingOf_ne_cycle {node : String} : formula.readingOf id ≠ .error (.cycle node) := by
  intro read
  rcases absent_or_readsAs_of_readingOf read with ⟨_, same⟩ | ⟨⟨_, _⟩, _, reads⟩
  · cases same
  · cases reads

theorem conclude_ne_cycle {values : Reading Number} {node : String} :
    values.conclude inputs id ≠ .error (.failed (.cycle node)) := by
  intro concluded
  rcases Reading.exists_cause_of_conclude_failed concluded with
    ⟨operator, operands, _, applied⟩ | ⟨_, _, _, _, _, same⟩
  · rcases Operator.cause_of_apply_error applied with ⟨_, _, same⟩ | same | same | ⟨_, same⟩ <;>
      cases same
  · cases same

/-- A node is blamed for a cycle only if it leads back to itself. -/
theorem Blames.leads_back {node : String} (blame : formula.Blames inputs id (.cycle node)) :
    node = id ∧ Relation.TransGen formula.Follows id id := by
  cases blame with
  | returned leads => exact ⟨rfl, leads⟩
  | unreadable read => exact absurd read readingOf_ne_cycle
  | inconclusive _ concluded => exact absurd concluded conclude_ne_cycle

/-- An evaluation finds a cycle at a node only if the result node reaches it and it leads back to
itself.  If the result node reaches any node that leads back to itself, no evaluation succeeds. -/
theorem cycle_detection_exact (formula : Formula) (inputs : Inputs) :
    (∀ id, (formula.run inputs).1 = .error (.failed (.cycle id)) →
      ∃ result, formula.resultNode = .ok result ∧ formula.Reaches result id ∧
        Relation.TransGen formula.Follows id id) ∧
      ∀ result id, formula.resultNode = .ok result → formula.Reaches result id →
        Relation.TransGen formula.Follows id id → formula.Fails inputs := by
  constructor
  · intro id fails
    rcases blames_of_run fails with
      unresolved | deep | ⟨result, blamed, resolved, reach, blame⟩
    · cases missing_of_unresolved unresolved
    · cases deep
    · obtain ⟨rfl, leads⟩ := blame.leads_back
      exact ⟨result, resolved, reach, leads⟩
  · intro result id resolved reach leads
    exact fails_of_leads_back resolved reach leads

/-- The cycle that is found at the total without inputs rules out success on any other inputs. -/
theorem looping_never_succeeds :
    Relation.TransGen looping.Follows "total" "total" ∧
      looping.Fails [("clases", .integer 5)] := by
  have fails : (looping.run []).1 = .error (.failed (.cycle "total")) := by
    decide +kernel
  obtain ⟨result, resolved, reach, leads⟩ := (cycle_detection_exact looping []).1 "total" fails
  exact ⟨leads, (cycle_detection_exact looping _).2 result "total" resolved reach leads⟩

end Formula
end PayGraph
