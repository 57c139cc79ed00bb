import PayGraph.Proofs.Json.Report
import PayGraph.Proofs.Number.Characters
import PayGraph.Proofs.Toml.Report

/-!
# What files can hold

Half a surrogate pair in a text is written as it is in every format, and nothing else that is
written is one.  So a file can hold a report exactly if no text of the evaluation has a half.
-/

namespace PayGraph

theorem all_eq_all {Item : Type} {items : List Item} {first second : Item → Bool}
    (alike : ∀ item ∈ items, first item = second item) : items.all first = items.all second := by
  rw [Bool.eq_iff_iff, List.all_eq_true, List.all_eq_true]
  exact forall₂_congr fun item item_mem => by rw [alike item item_mem]

section

variable [Halves]

@[simp]
theorem isEncodable_nil : isEncodable [] = true :=
  rfl

@[simp]
theorem isEncodable_append (front rest : List Char) :
    isEncodable (front ++ rest) = (isEncodable front && isEncodable rest) :=
  List.all_append

theorem isEncodable_cons (first : Char) (rest : List Char) :
    isEncodable (first :: rest) = ((halfUnit? first).isNone && isEncodable rest) :=
  List.all_cons

theorem isEncodable_intercalate {separator : List Char} (plain : isEncodable separator = true)
    (parts : List (List Char)) :
    isEncodable (separator.intercalate parts) = parts.all isEncodable := by
  induction parts with
  | nil => rfl
  | cons part parts induction =>
      cases parts with
      | nil => simp
      | cons next parts =>
          rw [List.intercalate_cons_cons, isEncodable_append, isEncodable_append, plain, induction,
            Bool.and_true, List.all_cons, List.all_cons, List.all_cons]

theorem halfUnit?_of_ascii {character : Char} (ascii : character.toNat < 128) :
    halfUnit? character = none := by
  have outside := Halves.le_first
  rw [halfUnit?, if_neg (by omega)]

@[simp]
theorem isEncodable_cons_of_ascii {first : Char} (ascii : first.toNat < 128) (rest : List Char) :
    isEncodable (first :: rest) = isEncodable rest := by
  rw [isEncodable_cons, halfUnit?_of_ascii ascii]
  exact Bool.true_and _

theorem isEncodable_flatMap {Item : Type} (write : Item → List Char) (items : List Item) :
    isEncodable (items.flatMap write) = items.all fun item => isEncodable (write item) :=
  List.all_flatMap

theorem isEncodable_of_forall {text : List Char}
    (ascii : ∀ character ∈ text, character.toNat < 128) : isEncodable text = true := by
  rw [isEncodable, List.all_eq_true]
  intro character character_mem
  rw [halfUnit?_of_ascii (ascii character character_mem)]
  rfl

theorem isEncodable_of_ascii {text : List Char}
    (ascii : (text.all fun character => character.toNat < 128) = true) :
    isEncodable text = true :=
  isEncodable_of_forall fun character character_mem =>
    of_decide_eq_true (List.all_eq_true.mp ascii character character_mem)

theorem isEncodable_word (word : String)
    (ascii : (word.toList.all fun character => character.toNat < 128) = true) :
    isEncodable word.toList = true :=
  isEncodable_of_ascii ascii

theorem isEncodable_hexText {value : Nat} (small : value < 128) :
    isEncodable (hexText 4 value) = true := by
  have each : ∀ value < 128, ((hexText 4 value).all fun digit => digit.toNat < 128) = true := by
    decide
  exact isEncodable_of_ascii (each value small)

theorem IsNumericText.isEncodable {text : List Char} (numeric : IsNumericText text) :
    isEncodable text = true :=
  isEncodable_of_forall fun character character_mem =>
    Nat.lt_of_le_of_lt (numeric.numeric character character_mem).visible.2 (by decide)

namespace Data

mutual

/-- No text within a value has half a surrogate pair. -/
def isEncodable : Data → Bool
  | .text content => PayGraph.isEncodable content.toList
  | .moment written => PayGraph.isEncodable written.toList
  | .list items => areEncodable items
  | .table entries => haveEncodable entries
  | _ => true

/-- No text within some items has half a surrogate pair. -/
def areEncodable : List Data → Bool
  | [] => true
  | item :: rest => isEncodable item && areEncodable rest

/-- No text within some entries has half a surrogate pair. -/
def haveEncodable : List (String × Data) → Bool
  | [] => true
  | (key, value) :: rest =>
    PayGraph.isEncodable key.toList && isEncodable value && haveEncodable rest

end

/-- No text within an entry has half a surrogate pair. -/
def isEncodableEntry (entry : String × Data) : Bool :=
  PayGraph.isEncodable entry.1.toList && entry.2.isEncodable

theorem isEncodableEntry_of_plain {key : String} (plain : PayGraph.isEncodable key.toList = true)
    (value : Data) : isEncodableEntry (key, value) = value.isEncodable := by
  rw [isEncodableEntry, plain, Bool.true_and]

@[simp]
theorem isEncodable_text (content : String) :
    (text content).isEncodable = PayGraph.isEncodable content.toList :=
  rfl

@[simp]
theorem isEncodable_number (number : Number) : (ofNumber number).isEncodable = true := by
  cases number <;> rfl

theorem isEncodable_list (items : List Data) :
    (list items).isEncodable = items.all isEncodable := by
  rw [isEncodable]
  induction items with
  | nil => rfl
  | cons item rest induction => rw [areEncodable, induction, List.all_cons]

theorem isEncodable_table (entries : Entries) :
    (table entries).isEncodable = entries.all isEncodableEntry := by
  rw [isEncodable]
  induction entries with
  | nil => rfl
  | cons entry rest induction =>
      rw [haveEncodable, induction, List.all_cons]
      rfl

end Data

namespace Json

theorem isEncodable_escape (character : Char) :
    isEncodable (escape character) = isEncodable [character] := by
  rw [escape]
  split_ifs with quote backslash line carriage tab backspace feed control
  · simp [quote]
  · simp [backslash]
  · simp [line]
  · simp [carriage]
  · simp [tab]
  · simp [backspace]
  · simp [feed]
  · have small : character.toNat < 128 := by omega
    simp [isEncodable_hexText small, small]
  · rfl

theorem isEncodable_textLiteral (content : String) :
    isEncodable (textLiteral content) = isEncodable content.toList := by
  have body : isEncodable (content.toList.flatMap escape) = isEncodable content.toList := by
    simp only [isEncodable_flatMap, isEncodable_escape]
    simp [isEncodable]
  simp [textLiteral, body]

theorem isEncodable_lineBreak (level : Nat) : isEncodable (lineBreak level) = true := by
  refine isEncodable_of_forall fun character character_mem => ?_
  rcases List.mem_cons.mp character_mem with rfl | space
  · decide
  · rw [List.eq_of_mem_replicate space]
    decide

theorem isEncodable_text (value : Binary64) : isEncodable (value.text specialWords) = true := by
  cases value with
  | nan => exact isEncodable_of_ascii (by decide)
  | infinite negative => cases negative <;> exact isEncodable_of_ascii (by decide)
  | finite negative rank => exact (Binary64.isNumericText_text (.finite negative rank)).isEncodable

theorem isEncodable_itemsText {level : Nat} {items : List Data}
    (alike : ∀ item ∈ items, isEncodable (textOf level item) = item.isEncodable) :
    isEncodable (itemsText level items) = items.all Data.isEncodable := by
  rw [itemsText, isEncodable_flatMap]
  refine all_eq_all fun item item_mem => ?_
  simp [isEncodable_lineBreak, alike item item_mem]

theorem isEncodable_entryText {level : Nat} {entry : String × Data}
    (alike : isEncodable (textOf level entry.2) = entry.2.isEncodable) :
    isEncodable (entryText level entry) = Data.isEncodableEntry entry := by
  simp [entryText, isEncodable_textLiteral, alike, Data.isEncodableEntry]

theorem isEncodable_entriesText {level : Nat} {entries : Entries}
    (alike : ∀ entry ∈ entries, isEncodable (textOf level entry.2) = entry.2.isEncodable) :
    isEncodable (entriesText level entries) = entries.all Data.isEncodableEntry := by
  rw [entriesText, isEncodable_flatMap]
  refine all_eq_all fun entry entry_mem => ?_
  simp [isEncodable_lineBreak, isEncodable_entryText (alike entry entry_mem)]

/-- A written value is as encodable as the texts in it. -/
theorem isEncodable_textOf {depth : Nat} {data : Data} (holds : data.IsJson depth) (level : Nat) :
    isEncodable (textOf level data) = data.isEncodable := by
  induction holds generalizing level with
  | null => exact isEncodable_word "null" (by decide)
  | boolean value =>
      cases value with
      | false => exact isEncodable_word "false" (by decide)
      | true => exact isEncodable_word "true" (by decide)
  | @whole _ value few =>
      have written : write level (.whole value) = .ok (wholeText value) := by
        rw [write, boundedText, if_pos few]
      rw [textOf_eq written]
      exact (isNumericText_wholeText value).isEncodable
  | real value => exact isEncodable_text value
  | text content => exact isEncodable_textLiteral content
  | @list depth items hold induction =>
      cases items with
      | nil => exact isEncodable_word "[]" (by decide)
      | cons first others =>
          have each : ∀ item ∈ first :: others, ReadBack depth (level + 1) item :=
            fun item item_mem => readBack (hold item item_mem) (level + 1)
          obtain ⟨first_alike, others_alike⟩ := List.forall_mem_cons.mp
            fun item item_mem => induction item item_mem (level + 1)
          rw [textOf_eq (write_list_eq each)]
          simp [isEncodable_lineBreak, first_alike, isEncodable_itemsText others_alike,
            Data.isEncodable_list]
  | @table depth entries distinct hold induction =>
      cases entries with
      | nil => exact isEncodable_word "\x7b\x7d" (by decide)
      | cons first others =>
          have each : ∀ entry ∈ first :: others, ReadBack depth (level + 1) entry.2 :=
            fun entry entry_mem => readBack (hold entry entry_mem) (level + 1)
          obtain ⟨first_alike, others_alike⟩ := List.forall_mem_cons.mp
            fun entry entry_mem => induction entry entry_mem (level + 1)
          rw [textOf_eq (write_table_eq each)]
          simp [isEncodable_lineBreak, isEncodable_entryText first_alike,
            isEncodable_entriesText others_alike, Data.isEncodable_table]

end Json

namespace Toml

theorem isEncodable_escapeText (character : Char) :
    isEncodable (escapeText character) = isEncodable [character] := by
  rw [escapeText]
  split_ifs with quote backslash backspace line feed carriage control
  · simp [quote]
  · simp [backslash]
  · simp [backspace]
  · simp [line]
  · simp [feed]
  · simp [carriage]
  · have small := toNat_lt_of_isControl control
    simp [isEncodable_hexText small, small]
  · rfl

theorem isEncodable_textLiteral (content : String) :
    isEncodable (textLiteral content) = isEncodable content.toList := by
  have body : isEncodable (content.toList.flatMap escapeText) = isEncodable content.toList := by
    simp only [isEncodable_flatMap, isEncodable_escapeText]
    simp [isEncodable]
  simp [textLiteral, body]

theorem isEncodable_keyText (key : String) :
    isEncodable (keyText key) = isEncodable key.toList := by
  rw [keyText]
  split
  · rfl
  · exact isEncodable_textLiteral key

theorem isEncodable_literalText {literal : Literal} {written : List Char}
    (written_eq : literalText literal = .ok written) :
    isEncodable written = literal.data.isEncodable := by
  cases literal with
  | text content =>
      cases written_eq
      exact isEncodable_textLiteral content
  | number value =>
      have plain : (Literal.number value).data.isEncodable = true := by
        cases value <;> rfl
      rw [plain]
      rcases word_or_numeral written_eq with word | ⟨negative, numeral, rfl, -⟩
      · simp only [words, List.mem_cons, Prod.mk.injEq, List.not_mem_nil, or_false] at word
        rcases word with ⟨rfl, -⟩ | ⟨rfl, -⟩ | ⟨rfl, -⟩ | ⟨rfl, -⟩ | ⟨rfl, -⟩ <;>
          exact isEncodable_of_ascii (by decide)
      · exact (isNumericText_signed negative numeral.isNumericText).isEncodable

theorem isEncodable_fieldText {field : String × Literal} (has_text : field.2.IsWritten) :
    isEncodable (fieldText field) = Data.isEncodableEntry (field.1, field.2.data) := by
  obtain ⟨written, written_eq, -, field_eq⟩ := exists_fieldText_eq has_text
  simp [field_eq, isEncodable_keyText, isEncodable_literalText written_eq, Data.isEncodableEntry]

section

variable {record : Record} (has_text : record.IsWritten)

include has_text

theorem all_isEncodable_fieldText :
    record.all (fun field => isEncodable (fieldText field)) =
      (Data.table record.entries).isEncodable := by
  rw [Data.isEncodable_table, Record.entries, List.all_map]
  exact all_eq_all fun field field_mem => isEncodable_fieldText (has_text field field_mem)

theorem isEncodable_linesText :
    isEncodable (linesText record) = (Data.table record.entries).isEncodable := by
  rw [← all_isEncodable_fieldText has_text, linesText, isEncodable_flatMap]
  exact all_eq_all fun field _ => by simp

theorem isEncodable_itemText :
    isEncodable (itemText record) = (Data.table record.entries).isEncodable := by
  have divided := isEncodable_intercalate (isEncodable_of_ascii (by decide) :
    isEncodable [',', ' '] = true) (record.map fieldText)
  rw [List.all_map] at divided
  rw [← all_isEncodable_fieldText has_text, itemText]
  simp [divided, Function.comp_def]

end

theorem isEncodable_listText {records : List Record}
    (have_text : ∀ record ∈ records, record.IsWritten) :
    isEncodable (listText records) =
      records.all fun record => (Data.table record.entries).isEncodable := by
  rw [listText, List.cons_append]
  refine Eq.trans ?_ (all_eq_all fun record record_mem =>
    isEncodable_itemText (have_text record record_mem))
  simp [isEncodable_flatMap]

theorem isEncodable_layout {key : String} (plain : isEncodable key.toList = true)
    {records : List Record} (have_text : ∀ record ∈ records, record.IsWritten) :
    isEncodable (layout key records) =
      records.all fun record => (Data.table record.entries).isEncodable := by
  rw [layout]
  split_ifs with empty short
  · simp [List.isEmpty_iff.mp empty, isEncodable_keyText, plain]
  · simp [isEncodable_keyText, plain, isEncodable_listText have_text]
  · rw [isEncodable_flatMap]
    refine all_eq_all fun record record_mem => ?_
    simp [sectionText, headerText, isEncodable_keyText, plain,
      isEncodable_linesText (have_text record record_mem)]

theorem isEncodable_document {fields : Record} {key : String} {records : List Record}
    (fields_have_text : fields.IsWritten) (plain : isEncodable key.toList = true)
    (have_text : ∀ record ∈ records, record.IsWritten) :
    isEncodable (linesText fields ++ layout key records) =
      (Data.table (tables fields key records)).isEncodable := by
  have last : Data.isEncodableEntry
      (key, .list (records.map fun record => .table record.entries)) =
      records.all fun record => (Data.table record.entries).isEncodable := by
    rw [Data.isEncodableEntry, plain, Data.isEncodable_list, List.all_map]
    rfl
  rw [isEncodable_append, isEncodable_linesText fields_have_text,
    isEncodable_layout plain have_text, Data.isEncodable_table, Data.isEncodable_table, tables,
    List.all_append, List.all_cons, last, List.all_nil, Bool.and_true]

end Toml

namespace Evaluation

/-- No text of the evaluation has half a surrogate pair. -/
structure IsEncodable (evaluation : Evaluation) : Prop where
  failure : ∀ message ∈ evaluation.error?, isEncodable message.toList = true
  nodes : ∀ step ∈ evaluation.steps, isEncodable step.node.toList = true
  descriptions : ∀ step ∈ evaluation.steps, isEncodable step.description.toList = true

variable {evaluation : Evaluation}

theorem isEncodable_record (step : Step) : (Data.table step.record.entries).isEncodable =
    (isEncodable step.node.toList && isEncodable step.description.toList) := by
  rw [Data.isEncodable_table]
  simp [Step.record, Record.entries, Data.isEncodableEntry, Literal.data]

theorem isEncodable_summary : (Record.entries evaluation.summary).all Data.isEncodableEntry =
    evaluation.error?.all fun message => isEncodable message.toList := by
  cases failed : evaluation.error? with
  | none => simp [summary, Record.entries, Data.isEncodableEntry, Literal.data, failed]
  | some message => simp [summary, Record.entries, Data.isEncodableEntry, Literal.data, failed]

theorem isEncodable_stepsKey : isEncodable stepsKey.toList = true :=
  isEncodable_word stepsKey (by decide)

theorem isEncodable_report_iff :
    (Data.table evaluation.report).isEncodable = true ↔ evaluation.IsEncodable := by
  rw [Data.isEncodable_table, report, List.all_append, isEncodable_summary, List.all_cons,
    List.all_nil, Data.isEncodableEntry_of_plain isEncodable_stepsKey, Data.isEncodable_list,
    List.all_map, Bool.and_true, Bool.and_eq_true, List.all_eq_true]
  simp only [Function.comp_apply, isEncodable_record, Bool.and_eq_true, Option.all_eq_true]
  constructor
  · rintro ⟨failure, lines⟩
    exact ⟨failure, fun step step_mem => (lines step step_mem).1,
      fun step step_mem => (lines step step_mem).2⟩
  · rintro ⟨failure, nodes, descriptions⟩
    exact ⟨failure, fun step step_mem => ⟨nodes step step_mem, descriptions step step_mem⟩⟩

/-- A file can hold the written report exactly if no text of the evaluation has half a surrogate
pair. -/
theorem isEncodable_reportText_iff (brief : evaluation.IsBrief) {format : Format} {text : String}
    (written : evaluation.reportText format = .ok text) :
    isEncodable text.toList = true ↔ evaluation.IsEncodable := by
  rw [← isEncodable_report_iff]
  cases format with
  | json =>
      cases written.symm.trans (reportText_json brief)
      rw [String.toList_ofList, Json.isEncodable_textOf (report_isJson brief 0)]
  | toml =>
      cases written.symm.trans (reportText_toml brief)
      rw [String.toList_ofList, report_eq_tables, Toml.isEncodable_document
        (summary_isWritten brief) isEncodable_stepsKey (records_are_written brief)]

/-- An evaluation that returns can be reported in each format, and a file can hold the report
exactly if it can hold the texts of the evaluation. -/
theorem exists_reportPieces {formula : Formula} {inputs : Inputs}
    (returns : formula.evaluate inputs = .ok evaluation) (format : Format) :
    ∃ pieces, evaluation.reportPieces format = .ok pieces ∧
      (pieces.all isEncodable = true ↔ evaluation.IsEncodable) := by
  have brief := isBrief_of_evaluate returns
  obtain ⟨text, written⟩ : ∃ text, evaluation.reportText format = .ok text := by
    cases format with
    | json => exact ⟨_, reportText_json brief⟩
    | toml => exact ⟨_, reportText_toml brief⟩
  obtain ⟨pieces, pieces_eq, rfl⟩ := Except.exists_of_map_eq_ok written
  refine ⟨pieces, pieces_eq, ?_⟩
  rw [← isEncodable_reportText_iff brief written, String.toList_ofList, isEncodable,
    List.all_flatten]
  exact Iff.rfl

/-- A report in JSON is a single piece, so nothing of it is written if a file cannot hold it. -/
theorem front_of_json {formula : Formula} {inputs : Inputs}
    (returns : formula.evaluate inputs = .ok evaluation) (unencodable : ¬evaluation.IsEncodable)
    {pieces : List (List Char)} (pieces_eq : evaluation.reportPieces .json = .ok pieces) :
    (pieces.takeWhile isEncodable).flatten = [] := by
  obtain ⟨found, found_eq, encodable_iff⟩ := exists_reportPieces returns .json
  cases pieces_eq.symm.trans found_eq
  obtain ⟨text, -, rfl⟩ := Except.exists_of_map_eq_ok found_eq
  have half : ¬isEncodable text.toList = true := by simpa using mt encodable_iff.mp unencodable
  rw [List.takeWhile_cons_of_neg half, List.flatten_nil]

end Evaluation

end
end PayGraph
