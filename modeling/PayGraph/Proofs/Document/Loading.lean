import Mathlib
import PayGraph.Proofs.Document.Essence

/-!
# Loading documents

A document makes a formula if its fields pass their checks, its nodes have their payloads and no two
of them share an identifier, unless an operator is nested too deeply for the warning about it; the
formula is what it says.  Otherwise it is refused for its fields, else for the first payload in the
order of its nodes, else for the first identifier that repeats.
-/

namespace PayGraph

namespace Formula

variable {id name : String} {nodes : List Node} {connections : List Connection}
  {result? : Option String}

end Formula

namespace Document

theorem Holds.unique {data : Data} {document other : Document} (holds : Holds data document)
    (others : Holds data other) : document = other :=
  Except.ok.inj ((check_eq_ok_iff.mpr holds).symm.trans (check_eq_ok_iff.mpr others))

section

variable [Host]

/-- Why data is refused as a document of a formula: its fields come first, then payloads in the
order of the nodes, then identifiers.  No operator before the payload, or none at all, gives up
everything. -/
inductive Refuses (data : Data) : DocumentError → Prop
  | fields {faults : List FieldFault} (faulty : ∃ fault, Faulty data fault)
      (all_faults : ∀ fault, fault ∈ faults ↔ Faulty data fault) : Refuses data (.fields faults)
  | payload {document : Document} {before after : List NodeEntry} {entry : NodeEntry}
      {cause : DocumentError} (holds : Holds data document)
      (nodes_eq : document.nodes = before ++ entry :: after)
      (complete_before : ∀ earlier ∈ before, earlier.Complete ∧ ¬earlier.Overnested)
      (refused : entry.Refused cause) : Refuses data cause
  | duplicate {document : Document} {before after : List String} {id : String}
      (holds : Holds data document)
      (complete : ∀ entry ∈ document.nodes, entry.Complete ∧ ¬entry.Overnested)
      (ids_eq : document.nodes.map NodeEntry.id = before ++ id :: after)
      (distinct_before : before.Nodup) (repeated : id ∈ before) : Refuses data (.duplicate id)

/-- Data holds a document, but an operator of it is nested too deeply, and no node before is
refused. -/
def GivesUp (data : Data) : Prop :=
  ∃ document before entry after, Holds data document ∧
    document.nodes = before ++ entry :: after ∧ (∀ earlier ∈ before, earlier.Complete) ∧
    entry.Overnested

theorem formula_eq_nesting_iff {document : Document} :
    document.formula.2 = .error .nesting ↔
      ∃ before entry after, document.nodes = before ++ entry :: after ∧
        (∀ earlier ∈ before, earlier.Complete) ∧ entry.Overnested := by
  rw [← NodeEntry.meanings_eq_nesting_iff]
  fun_cases Document.formula document with
  | case1 warnings fault meanings_eq => simp only [meanings_eq, Except.error.injEq]
  | case2 warnings nodes meanings_eq =>
      rw [meanings_eq]
      refine ⟨fun failed => ?_, nofun⟩
      obtain ⟨id, -, fault_eq⟩ := Except.exists_of_mapError_eq_error failed
      cases fault_eq

/-- Data makes what the document does that it holds, or is refused for its fields. -/
theorem ofData_cases (data : Data) :
    (∃ document, Holds data document ∧ Formula.ofData data = document.formula) ∨
      (¬∃ document, Holds data document) ∧
        ∃ faults, Formula.ofData data = ([], .error (.refused (.fields faults))) ∧
          ∀ fault, fault ∈ faults ↔ Faulty data fault := by
  fun_cases Formula.ofData data with
  | case1 faults checked =>
      refine Or.inr ⟨?_, faults, rfl, fun fault => ?_⟩
      · rintro ⟨document, holds⟩
        cases checked.symm.trans (check_eq_ok_iff.mpr holds)
      · rw [← mem_faults_check, Checked.faults_eq_of_error checked]
  | case2 document checked => exact Or.inl ⟨document, check_eq_ok_iff.mp checked, rfl⟩

theorem ofData_of_holds {data : Data} {document : Document} (holds : Holds data document) :
    Formula.ofData data = document.formula := by
  rcases ofData_cases data with ⟨other, others, made⟩ | ⟨none_held, -⟩
  · rw [made, others.unique holds]
  · exact absurd ⟨document, holds⟩ none_held

theorem givesUp_iff {data : Data} : (Formula.ofData data).2 = .error .nesting ↔ GivesUp data := by
  constructor
  · intro failed
    rcases ofData_cases data with ⟨document, holds, made_alike⟩ | ⟨-, faults, refused, -⟩
    · rw [made_alike] at failed
      obtain ⟨before, entry, after, given_up⟩ := formula_eq_nesting_iff.mp failed
      exact ⟨document, before, entry, after, holds, given_up⟩
    · rw [refused] at failed
      cases failed
  · rintro ⟨document, before, entry, after, holds, given_up⟩
    rw [ofData_of_holds holds]
    exact formula_eq_nesting_iff.mpr ⟨before, entry, after, given_up⟩

/-- An identifier that repeats is not reported before the payload of a later node. -/
example : (Formula.ofData (.table [("id", .whole 7), ("nodos", .list [
    .table [("id", .text "a"), ("tipo", .text "resultado")],
    .table [("id", .text "a"), ("tipo", .text "resultado"), ("posicion", .null)],
    .table [("id", .text "b"), ("tipo", .text "numero")]])])).2 =
      .error (.refused (.missingPayload "b" "numero" "valor")) :=
  rfl

end

section

attribute [local instance] Host.usual

end

end Document
end PayGraph
