import PayGraph.Files.Content
import PayGraph.Proofs.Written
import PayGraph.Report

/-!
# Reports that can be written

A report lists the parts of an evaluation and of each of its steps.  It is written if the whole
numbers of its evaluation have few enough digits; nothing else in it lacks a written form.  No key
is given twice, neither in its summary nor in the record of a step.
-/

namespace PayGraph

/-- The scalar has a written form. -/
def Literal.IsWritten : Literal → Prop
  | .number value => value.IsWritten
  | .text _ => True

/-- Every scalar of the record has a written form. -/
def Record.IsWritten (record : Record) : Prop :=
  ∀ field ∈ record, field.2.IsWritten

/-- Keys of a record in order. -/
def Record.keys (record : Record) : List String :=
  record.map Prod.fst

theorem Record.map_fst_entries (record : Record) : record.entries.map Prod.fst = record.keys := by
  simp [Record.entries, Record.keys, Function.comp_def]

/-- A table has what an evaluation tells about a step. -/
structure Step.IsReported (step : Step) (entries : Entries) : Prop where
  keys : entries.map Prod.fst = ["node_id", "description", "value", "is_error"]
  node : entries.lookup "node_id" = some (.text step.node)
  description : entries.lookup "description" = some (.text step.description)
  value : entries.lookup "value" = some (.ofNumber step.value)
  isError : entries.lookup "is_error" = some (.boolean step.isError)

/-- A table has what an evaluation tells, and a table of its own for every step in order. -/
structure Evaluation.IsReported (evaluation : Evaluation) (entries : Entries) : Prop where
  keys : entries.map Prod.fst =
    if evaluation.succeeded then ["value", "success", "steps"]
    else ["value", "success", "error", "steps"]
  value : entries.lookup "value" = some (.ofNumber evaluation.value)
  success : entries.lookup "success" = some (.boolean evaluation.succeeded)
  error : entries.lookup "error" = evaluation.error?.map .text
  steps : ∃ tables, entries.lookup "steps" = some (.list (tables.map .table)) ∧
    List.Forall₂ Step.IsReported evaluation.steps tables

theorem fromUTF8?_toUTF8 (text : String) : String.fromUTF8? text.toUTF8 = some text := by
  rw [String.fromUTF8?]
  exact dif_pos text.isValidUTF8

theorem readContent_toUTF8 {Refusal Value : Type} {reader : List Char → Except ParseFault Value}
    {text : String} {value : Value} (read : reader text.toList = .ok value) (malformed : Refusal) :
    readContent reader malformed text.toUTF8 = .ok value := by
  rw [readContent, fromUTF8?_toUTF8]
  simp only [read]
  rfl

namespace Evaluation

theorem record_isReported (step : Step) : step.IsReported step.record.entries :=
  ⟨rfl, rfl, rfl, rfl, rfl⟩

/-- The report of an evaluation has its parts and those of its steps. -/
theorem report_isReported (evaluation : Evaluation) : evaluation.IsReported evaluation.report := by
  have steps_reported : List.Forall₂ Step.IsReported evaluation.steps
      (evaluation.steps.map fun step => step.record.entries) :=
    List.forall₂_map_right_iff.mpr (List.forall₂_same.mpr fun step _ => record_isReported step)
  have tables_eq : (evaluation.steps.map fun step => Data.table step.record.entries) =
      (evaluation.steps.map fun step => step.record.entries).map .table := by
    rw [List.map_map]
    rfl
  rw [report, tables_eq]
  obtain ⟨value, steps, error?⟩ := evaluation
  cases error? with
  | none => exact ⟨rfl, rfl, rfl, rfl, _, rfl, steps_reported⟩
  | some message => exact ⟨rfl, rfl, rfl, rfl, _, rfl, steps_reported⟩

/-- The numbers of an evaluation: its value and those of its steps. -/
def numbers (evaluation : Evaluation) : List Number :=
  evaluation.value :: evaluation.steps.map Step.value

/-- The whole numbers of an evaluation have no more digits than may be converted. -/
def IsBrief (evaluation : Evaluation) : Prop :=
  ∀ whole : Int, Number.integer whole ∈ evaluation.numbers →
    whole.natAbs < Nat.pow 10 digitLimit

theorem IsBrief.isWritten {evaluation : Evaluation} (brief : evaluation.IsBrief) {number : Number}
    (number_mem : number ∈ evaluation.numbers) : number.IsWritten := by
  cases number with
  | boolean value => exact Number.isWritten_boolean value
  | integer value =>
      rw [Number.isWritten_integer_iff]
      exact brief value number_mem
  | real value => exact Number.isWritten_real value

/-- An evaluation that returns has written each of its numbers. -/
theorem isBrief_of_evaluate {formula : Formula} {inputs : Inputs} {evaluation : Evaluation}
    (returns : formula.evaluate inputs = .ok evaluation) : evaluation.IsBrief := by
  have zero_written : Number.zero.IsWritten := Number.Tame.zero.isWritten
  have value_written : evaluation.value.IsWritten := by
    rcases Formula.run_of_evaluate returns with
      ⟨value, progress, result, rfl⟩ | ⟨failure, progress, result, rfl⟩
    · obtain ⟨id, _, settles, found⟩ := Formula.settles_of_run result
      exact (settles.ledger .nil).isWritten found
    · exact zero_written
  have steps_written : ∀ step ∈ evaluation.steps, step.value.IsWritten := by
    obtain ⟨memo, steps, ledger, -, steps_eq | ⟨node, message, steps_eq⟩⟩ := exists_ledger returns
    · rw [steps_eq]
      exact ledger.isWritten_lines
    · rw [steps_eq, List.forall_mem_append, List.forall_mem_singleton]
      exact ⟨ledger.isWritten_lines, zero_written⟩
  intro whole whole_mem
  rw [← Number.isWritten_integer_iff]
  rcases List.mem_cons.mp whole_mem with same | listed
  · exact same ▸ value_written
  · obtain ⟨step, step_mem, same⟩ := List.mem_map.mp listed
    exact same ▸ steps_written step step_mem

theorem summary_isWritten {evaluation : Evaluation} (brief : evaluation.IsBrief) :
    evaluation.summary.IsWritten := by
  intro field field_mem
  simp only [summary, List.mem_append, List.mem_cons, List.not_mem_nil, or_false,
    Option.mem_toList, Option.map_eq_some_iff] at field_mem
  rcases field_mem with (rfl | rfl) | ⟨message, -, rfl⟩
  · exact brief.isWritten List.mem_cons_self
  · exact Number.isWritten_boolean _
  · trivial

theorem record_isWritten {evaluation : Evaluation} (brief : evaluation.IsBrief) {step : Step}
    (step_mem : step ∈ evaluation.steps) : step.record.IsWritten := by
  have value_mem : step.value ∈ evaluation.numbers :=
    List.mem_cons_of_mem _ (List.mem_map_of_mem step_mem)
  intro field field_mem
  simp only [Step.record, List.mem_cons, List.not_mem_nil, or_false] at field_mem
  rcases field_mem with rfl | rfl | rfl | rfl
  · trivial
  · trivial
  · exact brief.isWritten value_mem
  · exact Number.isWritten_boolean _

theorem nodup_summary_keys (evaluation : Evaluation) :
    (evaluation.summary.keys ++ [stepsKey]).Nodup := by
  rw [summary]
  cases evaluation.error? <;> simp [Record.keys, stepsKey]

theorem nodup_record_keys (step : Step) : step.record.keys.Nodup := by
  simp [Step.record, Record.keys]

end Evaluation
end PayGraph
