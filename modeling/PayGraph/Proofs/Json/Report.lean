import PayGraph.Loading
import PayGraph.Proofs.Json.Document
import PayGraph.Proofs.Report

/-!
# Reports in JSON

The report of an evaluation is a table of scalars and one list of flat tables.  Read back from its
written form it is the same table, whatever texts it holds: no carriage return is written as such,
so there are no line breaks to unify.
-/

namespace PayGraph

/-- Text without carriage returns has no line breaks to unify. -/
theorem unifyBreaks_eq_self {input : List Char} (plain : '\r' ∉ input) :
    unifyBreaks input = input := by
  induction input with
  | nil => rfl
  | cons character input induction =>
      simp only [List.mem_cons, not_or] at plain
      rw [unifyBreaks, induction plain.2]
      · rintro rest rfl
        exact absurd rfl plain.1
      · exact fun same => plain.1 same.symm

theorem Literal.IsWritten.isJson {literal : Literal} (written : literal.IsWritten) (depth : Nat) :
    literal.data.IsJson depth := by
  cases literal with
  | text content => exact .text content
  | number value =>
      cases value with
      | boolean value => exact .boolean value
      | real value => exact .real value
      | integer value => exact .whole (Number.isWritten_integer_iff.mp written)

theorem Record.IsWritten.isJson {record : Record} (written : record.IsWritten) (depth : Nat) :
    ∀ entry ∈ record.entries, entry.2.IsJson depth := by
  intro entry entry_mem
  obtain ⟨field, field_mem, rfl⟩ := List.mem_map.mp entry_mem
  exact (written field field_mem).isJson depth

namespace Evaluation

/-- A report is a table whose only nested value is a list of flat tables. -/
theorem report_isJson {evaluation : Evaluation} (brief : evaluation.IsBrief) (depth : Nat) :
    (Data.table evaluation.report).IsJson (depth + 3) := by
  refine .table ?_ ?_
  · rw [report, List.map_append, Record.map_fst_entries]
    exact nodup_summary_keys evaluation
  · intro entry entry_mem
    rcases List.mem_append.mp entry_mem with summarised | listed
    · exact (summary_isWritten brief).isJson _ entry summarised
    · rw [List.mem_singleton.mp listed]
      refine .list fun item item_mem => ?_
      obtain ⟨step, step_mem, rfl⟩ := List.mem_map.mp item_mem
      refine .table ?_ ((record_isWritten brief step_mem).isJson depth)
      rw [Record.map_fst_entries]
      exact nodup_record_keys step

theorem reportText_json [Halves] {evaluation : Evaluation} (brief : evaluation.IsBrief) :
    evaluation.reportText .json =
      .ok (String.ofList (Json.textOf 0 (.table evaluation.report))) := by
  have back := Json.readBack (report_isJson brief 0) 0
  rw [reportText, reportPieces, Json.document, back.written]
  simp [Except.map]

theorem exists_json_text [Host] {evaluation : Evaluation} (brief : evaluation.IsBrief) :
    ∃ text, evaluation.reportText .json = .ok text ∧
      Data.ofText .json text.toList = .ok (.table evaluation.report) := by
  have holds := report_isJson brief (Stack.json - 3)
  rw [Nat.sub_add_cancel Stack.three_le_json] at holds
  obtain ⟨text, written, unbroken, read⟩ := Json.read_document holds
  refine ⟨text, ?_, by rw [Data.ofText, unifyBreaks_eq_self unbroken, read]⟩
  rw [reportText, reportPieces, written]
  simp [Except.map]

/-- A report that is written in JSON is read back as it was, with all that the evaluation tells. -/
theorem json_report_read_back [Host] {evaluation : Evaluation} (brief : evaluation.IsBrief)
    {path : Path} (json : path.suffix = ".json".toList) {Refusal : Type} (malformed : Refusal) :
    ∃ text, evaluation.reportText (.ofPath path) = .ok text ∧
      readContent (Data.ofText .json) malformed text.toUTF8 = .ok (.table evaluation.report) ∧
      evaluation.IsReported evaluation.report := by
  have format_eq : Format.ofPath path = .json := if_pos json
  obtain ⟨text, written, read⟩ := exists_json_text brief
  exact ⟨text, by rw [format_eq, written], readContent_toUTF8 read malformed,
    report_isReported evaluation⟩

/-- Not-a-number, the values next to zero on either side, a truth value, quotes, backslashes and
every kind of line break. -/
def raffle : Evaluation where
  value := .real .nan
  steps := [
    { node := "\"draw\"", description := "C:\\raffle\r\n\u2028\x00", value := .boolean true
      isError := false },
    { node := "", description := "\t\x08\x0c\x1f\x7f", value := .real (.finite true ⟨1, by decide⟩)
      isError := false },
    { node := "premio 🎁", description := "\\u000d\r", value := .real (.finite false ⟨1, by decide⟩)
      isError := false },
    { node := "last", description := "-1", value := .integer (-1), isError := false }]
  error? := none

attribute [local instance] Host.usual

theorem raffle_read_back :
    raffle.IsBrief ∧ (⟨.relative, ["raffle.json"]⟩ : Path).suffix = ".json".toList ∧
      ∃ text, raffle.reportText (.ofPath ⟨.relative, ["raffle.json"]⟩) = .ok text ∧
        readContent (Data.ofText .json) (LoadError.notJson ⟨.relative, ["raffle.json"]⟩)
          text.toUTF8 = .ok (.table raffle.report) ∧
        raffle.IsReported raffle.report := by
  have brief : raffle.IsBrief := by
    intro whole whole_mem
    simp [numbers, raffle] at whole_mem
    rw [whole_mem]
    exact Number.one_lt_longest
  have json : (⟨.relative, ["raffle.json"]⟩ : Path).suffix = ".json".toList := by decide
  exact ⟨brief, json, json_report_read_back brief json _⟩

end Evaluation
end PayGraph
