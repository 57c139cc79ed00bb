import PayGraph.Proofs.Conclusion
import PayGraph.Proofs.Visit

/-!
# Blame

A failure is about one node: a node that leads back to itself, one that cannot be read, or one whose
operands allow no value.  The result node reaches this node along followed connections.
-/

namespace PayGraph
namespace Formula

/-- The node at which an evaluation fails, with the failure. -/
inductive Blames (formula : Formula) (inputs : Inputs) (id : String) : Failure → Prop
  | returned : Relation.TransGen formula.Follows id id → Blames formula inputs id (.cycle id)
  | unreadable {failure : Failure} :
      formula.readingOf id = .error failure → Blames formula inputs id failure
  | inconclusive {reading : Reading String} {amount : String → Number} {failure : Failure} :
      formula.readingOf id = .ok reading →
      (reading.map amount).conclude inputs id = .error (.failed failure) →
      Blames formula inputs id failure

end Formula

variable {formula : Formula} {inputs : Inputs}

/-- An execution that fails within its frames reaches the node that is to blame, or a node that was
being evaluated when it began. -/
theorem Halts.blames {progress after : Progress} {ids : List String} {failure : Failure}
    (halts : Halts formula inputs progress ids (.failed failure) after) :
    failure = .tooDeep ∨ ∃ id ∈ ids, ∃ blamed, formula.Reaches id blamed ∧
      (blamed ∈ progress.active ∧ failure = .cycle blamed ∨
        formula.Blames inputs blamed failure) := by
  generalize stopped : Halt.failed failure = halt at halts
  induction halts with
  | exhausted =>
      cases stopped
      exact Or.inl rfl
  | @returned progress id rest _ active =>
      cases stopped
      exact Or.inr ⟨id, List.mem_cons_self, id, .refl, Or.inl ⟨active, rfl⟩⟩
  | @unreadable progress id rest cause _ read =>
      cases stopped
      exact Or.inr ⟨id, List.mem_cons_self, id, .refl, Or.inr (.unreadable read)⟩
  | @nested progress after id rest reading halt _ read _ induction =>
      rcases induction stopped with deep | ⟨source, source_mem, blamed, reach, blame⟩
      · exact Or.inl deep
      have followed : formula.Follows id source := (Formula.follows_iff read source).mpr source_mem
      refine Or.inr ⟨id, List.mem_cons_self, blamed, .head followed reach, ?_⟩
      rcases blame with ⟨active, rfl⟩ | blame
      · rcases List.mem_cons.mp active with rfl | active
        -- The node that is read again is the one at hand, so it leads back to itself.
        · exact Or.inr (.returned (.head' followed reach))
        · exact Or.inl ⟨active, rfl⟩
      · exact Or.inr blame
  | @inconclusive progress within id rest reading halt _ read _ concluded =>
      cases stopped
      exact Or.inr ⟨id, List.mem_cons_self, id, .refl, Or.inr (.inconclusive read concluded)⟩
  | @later progress within after id rest halt first _ induction =>
      rcases induction stopped with deep | ⟨other, other_mem, blamed, reach, blame⟩
      · exact Or.inl deep
      · rw [first.active_eq] at blame
        exact Or.inr ⟨other, List.mem_cons_of_mem _ other_mem, blamed, reach, blame⟩

/-- The only failure of choosing a result node is that there is none. -/
theorem Formula.missing_of_unresolved {failure : Failure}
    (unresolved : formula.resultNode = .error failure) : failure = .missingResult := by
  rw [resultNode] at unresolved
  split at unresolved <;> cases unresolved
  rfl

/-- A failed run lacks a result node, is too deep, or reaches the node that is to blame. -/
theorem Formula.blames_of_run {failure : Failure}
    (fails : (formula.run inputs).1 = .error (.failed failure)) :
    formula.resultNode = .error failure ∨ failure = .tooDeep ∨
      ∃ result blamed, formula.resultNode = .ok result ∧ formula.Reaches result blamed ∧
        formula.Blames inputs blamed failure := by
  have ran : formula.run inputs = (.error (.failed failure), (formula.run inputs).2) :=
    Prod.ext fails rfl
  rcases halts_of_run ran with ⟨cause, unresolved, same, _⟩ | ⟨result, resolved, halts⟩
  · cases same
    exact Or.inl unresolved
  · rcases halts.blames with deep | ⟨start, start_mem, blamed, reach, blame⟩
    · exact Or.inr (Or.inl deep)
    · rw [List.mem_singleton.mp start_mem] at reach
      rcases blame with ⟨active, _⟩ | blame
      · cases active
      · exact Or.inr (Or.inr ⟨result, blamed, resolved, reach, blame⟩)

end PayGraph
