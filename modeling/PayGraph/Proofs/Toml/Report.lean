import PayGraph.Loading
import PayGraph.Proofs.Toml.Document

/-!
# Reports in TOML

The report of an evaluation is a document of its value, its success, its failure if there is one,
and its steps.  Read back from its written form it is the same table, whatever texts it holds and
whichever layout its steps have.
-/

namespace PayGraph
namespace Evaluation

theorem report_eq_tables (evaluation : Evaluation) :
    evaluation.report =
      Toml.tables evaluation.summary stepsKey (evaluation.steps.map Step.record) := by
  rw [report, Toml.tables, List.map_map]
  rfl

theorem records_are_written {evaluation : Evaluation} (brief : evaluation.IsBrief) :
    ∀ record ∈ evaluation.steps.map Step.record, record.IsWritten := by
  rintro record record_mem
  obtain ⟨step, step_mem, rfl⟩ := List.mem_map.mp record_mem
  exact record_isWritten brief step_mem

theorem reportText_toml {evaluation : Evaluation} (brief : evaluation.IsBrief) :
    evaluation.reportText .toml = .ok (String.ofList (Toml.linesText evaluation.summary ++
      Toml.layout stepsKey (evaluation.steps.map Step.record))) :=
  Toml.document_eq (summary_isWritten brief) (records_are_written brief)

theorem exists_toml_text [Host] {evaluation : Evaluation} (brief : evaluation.IsBrief) :
    ∃ text, evaluation.reportText .toml = .ok text ∧
      Data.ofText .toml text.toList = .ok (.table evaluation.report) := by
  have steps_distinct : ∀ record ∈ evaluation.steps.map Step.record, record.keys.Nodup := by
    rintro record record_mem
    obtain ⟨step, -, rfl⟩ := List.mem_map.mp record_mem
    exact nodup_record_keys step
  obtain ⟨text, written_eq, read_eq⟩ := Toml.read_document (summary_isWritten brief)
    (records_are_written brief) (nodup_summary_keys evaluation) steps_distinct
  refine ⟨text, written_eq, ?_⟩
  rw [Data.ofText, read_eq, report_eq_tables]
  rfl

/-- A report that is written in TOML is read back as it was, with all that the evaluation tells. -/
theorem toml_report_read_back [Host] {evaluation : Evaluation} (brief : evaluation.IsBrief)
    {path : Path} (not_json : Format.ofPath path ≠ .json) :
    ∃ text, evaluation.reportText (.ofPath path) = .ok text ∧
      readContent (Data.ofText (.ofPath path)) (LoadError.notInputs path) text.toUTF8 =
        .ok (.table evaluation.report) ∧
      evaluation.IsReported evaluation.report := by
  have format_eq : Format.ofPath path = .toml := by
    cases format : Format.ofPath path with
    | json => exact absurd format not_json
    | toml => rfl
  obtain ⟨text, written_eq, read_eq⟩ := exists_toml_text brief
  rw [format_eq]
  exact ⟨text, written_eq, readContent_toUTF8 read_eq (LoadError.notInputs path),
    report_isReported evaluation⟩

/-- A negative zero, an infinity, quotes, control characters, and a line too long for brackets. -/
def gala : Evaluation where
  value := .real (.finite true ⟨0, by decide⟩)
  steps := [
    { node := "base", description := "\"clases\"\t\\ = -1\x7f", value := .integer (-1)
      isError := false },
    { node := "año nuevo", description := "a line that is too long to stand in brackets\r\n\x01"
      value := .real (.infinite true), isError := true }]
  error? := some "too much\n"

attribute [local instance] Host.usual

theorem gala_read_back :
    gala.IsBrief ∧ Format.ofPath ⟨.relative, ["gala.toml"]⟩ ≠ .json ∧
      ∃ text, gala.reportText (.ofPath ⟨.relative, ["gala.toml"]⟩) = .ok text ∧
        readContent (Data.ofText (.ofPath ⟨.relative, ["gala.toml"]⟩))
          (LoadError.notInputs ⟨.relative, ["gala.toml"]⟩) text.toUTF8 =
          .ok (.table gala.report) ∧
        gala.IsReported gala.report := by
  have brief : gala.IsBrief := by
    intro whole whole_mem
    simp [numbers, gala] at whole_mem
    rw [whole_mem]
    exact Number.one_lt_longest
  have not_json : Format.ofPath ⟨.relative, ["gala.toml"]⟩ ≠ .json := by decide
  exact ⟨brief, not_json, toml_report_read_back brief not_json⟩

end Evaluation
end PayGraph
