import PayGraph.Proofs.Toml.Record

/-!
# Reading written documents in TOML

A document of scalars and a list of records is read back line by line in both of its layouts.  The
assignments of a section change the table that its header leads to and nothing else.
-/

namespace PayGraph
namespace Toml

/-- A change along the path changes one part of a table and leaves the rest. -/
def Focuses (path : List String) (rebuild : Entries → Entries) : Prop :=
  ∀ change found, changeAt true change path (rebuild found) = (change found).map rebuild

theorem focuses_nil : Focuses [] id := by
  intro change found
  rw [changeAt, id]
  cases change found <;> rfl

section

variable {base : Entries} {key : String} (absent : key ∉ base.map Prod.fst)

include absent

theorem key_ne_of_mem {entry : String × Data} (entry_mem : entry ∈ base) : entry.1 ≠ key :=
  fun same => absent (same ▸ List.mem_map_of_mem entry_mem)

theorem lookup_last (value : Data) : (base ++ [(key, value)]).lookup key = some value := by
  rw [Association.lookup_append_single absent, if_pos rfl]

theorem insert_append_single (value changed : Data) :
    Entries.insert (base ++ [(key, value)]) key changed = base ++ [(key, changed)] := by
  have present : Entries.has (base ++ [(key, value)]) key = true := by simp [Entries.has]
  have kept : base.map (fun entry => if entry.1 = key then (key, changed) else entry) = base := by
    rw [List.map_congr_left, List.map_id]
    intro entry entry_mem
    rw [if_neg (key_ne_of_mem absent entry_mem), id]
  rw [Entries.insert, if_pos present, List.map_append, kept]
  simp

theorem focuses_last (earlier : List Data) :
    Focuses [key] fun found => base ++ [(key, .list (earlier ++ [.table found]))] := by
  intro change found
  rw [changeAt, lookup_last absent]
  simp only [if_true, List.getLast?_concat, List.dropLast_concat, changeAt,
    insert_append_single absent]

end

/-- What the next assignments add to is known, and nothing forbids them. -/
structure Draft.Stands (draft : Draft) (header : List String) (root : Entries) : Prop where
  header_eq : draft.header = header
  root_eq : draft.root = root
  frozen_eq : draft.frozen = []

theorem exists_assign_eq {draft : Draft} {header : List String} {rebuild : Entries → Entries}
    {found : Entries} {key : String} (stands : draft.Stands header (rebuild found))
    (focuses : Focuses header rebuild) (absent : key ∉ found.map Prod.fst) (value : Data) :
    ∃ changed, draft.assign [key] value = .ok changed ∧
      changed.root = rebuild (found ++ [(key, value)]) ∧
      (isNested value = false → changed.Stands header (rebuild (found ++ [(key, value)]))) := by
  obtain ⟨rfl, root_eq, frozen_eq⟩ := stands
  have changed_eq := focuses (addEntry key value) found
  rw [addEntry_of_not_mem absent, ← root_eq] at changed_eq
  refine ⟨{ draft with
    root := rebuild (found ++ [(key, value)])
    frozen := if isNested value then [draft.header ++ [key]] else [] }, ?_, rfl, ?_⟩
  · simp [Draft.assign, Draft.passed, within, frozen_eq, changed_eq, Except.map]
  · intro plain
    exact ⟨rfl, rfl, if_neg (Bool.not_eq_true _ ▸ plain)⟩

theorem lines_append [Stack] {fuel : Nat} {draft changed : Draft} {line after : List Char}
    (read : statement fuel draft (skipBlanks (line ++ '\n' :: after)) =
      .ok (changed, '\n' :: after))
    (count : Nat) :
    lines fuel (count + 1) draft (line ++ '\n' :: after) = lines fuel count changed after := by
  rw [lines, read]
  rfl

theorem lines_nil [Stack] (fuel count : Nat) (draft : Draft) :
    lines fuel count draft [] = .ok draft.root := by
  cases count <;> rfl

theorem statement_of_opens [Stack] {written : List Char} (opens : Opens written) (fuel : Nat)
    (draft : Draft) {key : List String} {found : Data} {rest : List Char}
    (read : assignment fuel (value fuel Stack.toml) written = .ok ((key, found), rest)) :
    statement fuel draft written =
      (draft.assign key found).map fun assigned => (assigned, rest) := by
  obtain ⟨first, others, rfl, first_eq⟩ := opens
  have first_ne : first ≠ '\n' ∧ first ≠ '#' ∧ first ≠ '[' := by
    rcases first_eq with bare | rfl
    · refine ⟨?_, ?_, ?_⟩ <;> rintro rfl <;> cases bare
    · decide
  rw [statement.eq_def]
  simp [first_ne, read]

theorem lines_assignment [Stack] {fuel : Nat} {draft : Draft} {header : List String}
    {rebuild : Entries → Entries} {found : Entries} {key : String} {value : Data}
    (stands : draft.Stands header (rebuild found)) (focuses : Focuses header rebuild)
    (absent : key ∉ found.map Prod.fst) {line after : List Char} (opens : Opens line)
    (read : assignment fuel (Toml.value fuel Stack.toml) (line ++ '\n' :: after) =
      .ok (([key], value), '\n' :: after)) :
    ∃ changed : Draft, changed.root = rebuild (found ++ [(key, value)]) ∧
      (isNested value = false → changed.Stands header (rebuild (found ++ [(key, value)]))) ∧
      ∀ count, lines fuel (count + 1) draft (line ++ '\n' :: after) =
        lines fuel count changed after := by
  obtain ⟨changed, assigned, root_eq, stands_after⟩ := exists_assign_eq stands focuses absent value
  refine ⟨changed, root_eq, stands_after, fun count => lines_append ?_ count⟩
  rw [opens.skipBlanks, statement_of_opens (opens.append _) fuel draft read, assigned]
  rfl

/-- Written form of a record on lines of their own. -/
def linesText (record : Record) : List Char :=
  record.flatMap fun field => fieldText field ++ ['\n']

theorem lines_linesText [Stack] (fuel : Nat) {header : List String} {rebuild : Entries → Entries}
    (focuses : Focuses header rebuild) {record : Record} {draft : Draft} {found : Entries}
    (stands : draft.Stands header (rebuild found)) (has_text : record.IsWritten)
    (distinct : (found.map Prod.fst ++ record.keys).Nodup) (after : List Char) :
    ∃ changed : Draft, changed.Stands header (rebuild (found ++ record.entries)) ∧
      ∀ count, lines (fuel + 1) (count + record.length) draft (linesText record ++ after) =
        lines (fuel + 1) count changed after := by
  induction record generalizing draft found with
  | nil => exact ⟨draft, by simpa [Record.entries] using stands, fun count => rfl⟩
  | cons field record induction =>
      -- the first line keeps the table in focus, so the others follow with one more entry found
      have field_has_text := has_text field List.mem_cons_self
      have absent : field.1 ∉ found.map Prod.fst := by
        intro present
        exact List.disjoint_of_nodup_append distinct present List.mem_cons_self
      have read := assignment_fieldText field_has_text fuel (fuel + 1) Stack.toml
        (Parted.line (linesText record ++ after))
      obtain ⟨assigned, -, stands_after, first_line⟩ :=
        lines_assignment stands focuses absent (opens_fieldText field_has_text) read
      obtain ⟨changed, stands_finally, other_lines⟩ := induction
        (stands_after (isNested_data field.2))
        (fun other other_mem => has_text other (List.mem_cons_of_mem _ other_mem))
        (by simpa [Record.keys] using distinct)
      refine ⟨changed, by simpa [Record.entries] using stands_finally, fun count => ?_⟩
      have text_eq : linesText (field :: record) ++ after =
          fieldText field ++ '\n' :: (linesText record ++ after) := by
        simp [linesText]
      rw [text_eq, List.length_cons, ← Nat.add_assoc, first_line, other_lines]

/-- Entries with a list of tables under a key last; an empty list has no entry. -/
def withItems (base : Entries) (key : String) (items : List Data) : Entries :=
  if items.isEmpty then base else base ++ [(key, .list items)]

theorem withItems_concat (base : Entries) (key : String) (items : List Data) (item : Data) :
    withItems base key (items ++ [item]) = base ++ [(key, .list (items ++ [item]))] := by
  simp [withItems]

theorem appendItem_withItems {base : Entries} {key : String} (absent : key ∉ base.map Prod.fst)
    (items : List Data) :
    Draft.appendItem key (withItems base key items) =
      .ok (withItems base key (items ++ [.table []])) := by
  rw [withItems_concat, Draft.appendItem.eq_def, withItems]
  cases items with
  | nil => simp [Association.lookup_eq_none absent]
  | cons first items =>
      simp [lookup_last absent, insert_append_single absent]

/-- Header of an item of a list, on a line of its own after an empty one. -/
def headerText (key : String) : List Char :=
  '[' :: '[' :: (keyText key ++ [']', ']'])

theorem lines_headerText [Stack] (fuel : Nat) {draft : Draft} {base : Entries} {key : String}
    {items : List Data} (root_eq : draft.root = withItems base key items)
    (frozen_eq : draft.frozen = []) (absent : key ∉ base.map Prod.fst) (after : List Char) :
    ∃ opened : Draft,
      opened.Stands [key] (base ++ [(key, .list (items ++ [.table []]))]) ∧
      ∀ count, lines (fuel + 1) (count + 2) draft ('\n' :: (headerText key ++ '\n' :: after)) =
        lines (fuel + 1) count opened after := by
  have appended := appendItem_withItems absent items
  rw [withItems_concat, ← root_eq] at appended
  obtain ⟨opened, opened_eq, stands⟩ : ∃ opened : Draft, draft.settle.openItem [key] = .ok opened ∧
      opened.Stands [key] (base ++ [(key, .list (items ++ [.table []]))]) := by
    refine ⟨{ draft.settle with
      root := base ++ [(key, .list (items ++ [.table []]))]
      header := [key]
      explicit := [key] :: draft.settle.explicit.filter fun path => !([key].isPrefixOf path)
      frozen := [] }, ?_, rfl, rfl, rfl⟩
    simp [Draft.openItem, Draft.settle, within, frozen_eq, changeAt, appended, Except.map]
  have visible : skipBlanks (keyText key ++ ']' :: ']' :: '\n' :: after) =
      keyText key ++ ']' :: ']' :: '\n' :: after := (opens_keyText key).skipBlanks _
  have key_read : keyParts (fuel + 1) [] (keyText key ++ ']' :: ']' :: '\n' :: after) =
      .ok ([key], ']' :: ']' :: '\n' :: after) :=
    keyParts_keyText fuel key (by decide) (by simp [skipBlanks, isBlank])
  have read : statement (fuel + 1) draft (skipBlanks (headerText key ++ '\n' :: after)) =
      .ok (opened, '\n' :: after) := by
    have start_eq : skipBlanks (headerText key ++ '\n' :: after) =
        '[' :: '[' :: (keyText key ++ ']' :: ']' :: '\n' :: after) := by
      simp [headerText, skipBlanks, isBlank]
    rw [start_eq, statement]
    simp only [visible, key_read, opened_eq]
  refine ⟨opened, stands, fun count => ?_⟩
  have blank : statement (fuel + 1) draft
      (skipBlanks ([] ++ '\n' :: (headerText key ++ '\n' :: after))) =
      .ok (draft, '\n' :: (headerText key ++ '\n' :: after)) := rfl
  exact (lines_append blank (count + 1)).trans (lines_append read count)

/-- Written form of an item of a list in a section of its own. -/
def sectionText (key : String) (record : Record) : List Char :=
  '\n' :: (headerText key ++ '\n' :: linesText record)

/-- Number of lines of the sections of records. -/
def lineCount (records : List Record) : Nat :=
  (records.map fun record => record.length + 2).sum

/-- Every section adds a table to the list. -/
theorem lines_sections [Stack] (fuel : Nat) {base : Entries} {key : String}
    (absent : key ∉ base.map Prod.fst) {records : List Record} {draft : Draft} {items : List Data}
    (root_eq : draft.root = withItems base key items) (frozen_eq : draft.frozen = [])
    (have_text : ∀ record ∈ records, record.IsWritten)
    (distinct : ∀ record ∈ records, record.keys.Nodup) (count : Nat) :
    lines (fuel + 1) (count + lineCount records) draft (records.flatMap (sectionText key)) =
      .ok (withItems base key (items ++ records.map fun record => .table record.entries)) := by
  induction records generalizing draft items with
  | nil => simp [lines_nil, root_eq]
  | cons record records induction =>
      obtain ⟨opened, stands, header_lines⟩ := lines_headerText fuel root_eq frozen_eq absent
        (linesText record ++ records.flatMap (sectionText key))
      obtain ⟨changed, stands_after, record_lines⟩ := lines_linesText fuel
        (focuses_last absent items) stands (have_text record List.mem_cons_self)
        (by simpa using distinct record List.mem_cons_self)
        (records.flatMap (sectionText key))
      have following := induction (stands_after.root_eq.trans
          (withItems_concat base key items (.table record.entries)).symm)
        stands_after.frozen_eq
        (fun other other_mem => have_text other (List.mem_cons_of_mem _ other_mem))
        (fun other other_mem => distinct other (List.mem_cons_of_mem _ other_mem))
      have text_eq : (record :: records).flatMap (sectionText key) =
          '\n' :: (headerText key ++ '\n' :: (linesText record ++
            records.flatMap (sectionText key))) := by
        simp [sectionText]
      have count_eq : count + lineCount (record :: records) =
          count + lineCount records + record.length + 2 := by
        simp [lineCount]
        omega
      rw [text_eq, count_eq, header_lines, record_lines, following]
      simp

/-- Written form of a list of records under a key, in the layout that suits it. -/
def layout (key : String) (records : List Record) : List Char :=
  if records.isEmpty then keyText key ++ [' ', '=', ' ', '[', ']', '\n']
  else if records.all fun record => (itemText record).length < lineLimit then
    keyText key ++ ' ' :: '=' :: ' ' :: '[' :: (listText records ++ ['\n'])
  else records.flatMap (sectionText key)

theorem recordsPieces_eq (key : String) {records : List Record}
    (have_text : ∀ record ∈ records, record.IsWritten) :
    ∃ written, recordsPieces key records = .ok written ∧ written.flatten = layout key records := by
  have items_eq : records.mapM recordItem =
      .ok (records.map fun record => itemText record ++ [',']) :=
    mapM_eq_pure fun record record_mem => recordItem_eq (have_text record record_mem)
  have sections_eq : records.mapM recordLines =
      .ok (records.map fun record => record.map fun field => fieldText field ++ ['\n']) :=
    mapM_eq_pure fun record record_mem => recordLines_eq (have_text record record_mem)
  rw [recordsPieces, layout]
  split
  · exact ⟨_, rfl, List.append_nil _⟩
  · have lengths_eq : ((records.map fun record => itemText record ++ [',']).all
        fun item => decide (item.length ≤ lineLimit)) =
        records.all fun record => decide ((itemText record).length < lineLimit) := by
      rw [List.all_map]
      congr
      funext record
      rw [Function.comp_apply, List.length_append, List.length_singleton, decide_eq_decide]
      exact Nat.add_one_le_iff
    have inline_eq : (records.map fun record => itemText record ++ [',']).flatMap (· ++ ['\n']) =
        records.flatMap fun record => itemText record ++ [',', '\n'] := by
      simp [List.flatMap_map]
    rw [items_eq, sections_eq]
    simp only [bind, Except.bind, lengths_eq, inline_eq]
    split
    · exact ⟨_, rfl, by simp [listText]⟩
    · refine ⟨_, rfl, ?_⟩
      rw [List.flatMap_map, List.flatten_eq_flatMap, List.flatMap_assoc]
      congr
      funext record
      simp [sectionText, headerText, linesText, List.flatMap_def]

theorem length_le_linesText (record : Record) : record.length ≤ (linesText record).length := by
  induction record with
  | nil => exact Nat.le_refl 0
  | cons field record induction =>
      simp only [linesText, List.flatMap_cons, List.length_append, List.length_cons] at induction ⊢
      omega

theorem length_le_itemText (record : Record) : record.length ≤ (itemText record).length := by
  have joined : record.length ≤ ([',', ' '].intercalate (record.map fieldText)).length + 1 := by
    induction record with
    | nil => simp
    | cons field record induction =>
        cases record with
        | nil => simp
        | cons next record =>
            rw [List.map_cons, List.map_cons, List.intercalate_cons_cons]
            simp only [List.length_append, List.length_cons, List.map_cons, List.length_nil]
              at induction ⊢
            omega
  simp only [itemText, List.length_append, List.length_cons, List.length_nil]
  omega

theorem lineCount_le (key : String) (records : List Record) :
    lineCount records ≤ (records.flatMap (sectionText key)).length := by
  induction records with
  | nil => exact Nat.le_refl 0
  | cons record records induction =>
      have body := length_le_linesText record
      simp only [lineCount, List.map_cons, List.sum_cons, List.flatMap_cons, List.length_append,
        sectionText, headerText, List.length_cons] at induction ⊢
      omega

theorem length_le_listText (records : List Record) :
    records.length ≤ (listText records).length ∧
      ∀ record ∈ records, record.length ≤ (listText records).length := by
  induction records with
  | nil => simp
  | cons record records induction =>
      have first_short := length_le_itemText record
      have length_eq : (listText (record :: records)).length =
          (itemText record).length + (listText records).length + 2 := by
        simp [listText_cons]
        omega
      refine ⟨by simp only [List.length_cons]; omega, fun other other_mem => ?_⟩
      rcases List.mem_cons.mp other_mem with rfl | later
      · omega
      · have later_short := induction.2 other later
        omega

theorem not_mem_linesText {record : Record} (has_text : record.IsWritten) :
    '\r' ∉ linesText record := by
  rw [linesText, List.mem_flatMap]
  rintro ⟨field, field_mem, return_mem⟩
  have plain := not_mem_fieldText (has_text field field_mem)
  simp [plain] at return_mem

theorem not_mem_layout (key : String) {records : List Record}
    (have_text : ∀ record ∈ records, record.IsWritten) : '\r' ∉ layout key records := by
  have key_plain := not_mem_keyText key
  have list_plain := not_mem_listText have_text
  rw [layout]
  split_ifs
  · simp [key_plain]
  · simp [key_plain, list_plain]
  · rw [List.mem_flatMap]
    rintro ⟨record, record_mem, return_mem⟩
    have body_plain := not_mem_linesText (have_text record record_mem)
    simp [sectionText, headerText, key_plain, body_plain] at return_mem

theorem unifyBreaks_eq_self {input : List Char} (plain : '\r' ∉ input) :
    unifyBreaks input = input := by
  induction input with
  | nil => rfl
  | cons character input induction =>
      simp only [List.mem_cons, not_or] at plain
      rw [unifyBreaks, induction plain.2]
      rintro rest rfl
      exact absurd rfl plain.1

theorem stands_start : Draft.Stands {} [] (id []) :=
  ⟨rfl, rfl, rfl⟩

section

variable [Stack] {fuel : Nat} {draft : Draft} {base : Entries} {key : String}
  (stands : draft.Stands [] base) (absent : key ∉ base.map Prod.fst)

include stands absent

theorem lines_bracketed {written : List Char} {found : List Data}
    (read : value (fuel + 1) Stack.toml ('[' :: (written ++ ['\n'])) = .ok (.list found, ['\n']))
    {count : Nat} (enough : 0 < count) :
    lines (fuel + 1) count draft (keyText key ++ ' ' :: '=' :: ' ' :: '[' :: (written ++ ['\n'])) =
      .ok (base ++ [(key, .list found)]) := by
  obtain ⟨fewer, rfl⟩ : ∃ fewer, count = fewer + 1 := ⟨count - 1, by omega⟩
  have visible : skipBlanks ('[' :: (written ++ ['\n'])) = '[' :: (written ++ ['\n']) := rfl
  have assigned := assignment_keyText fuel (value (fuel + 1) Stack.toml) key visible
  rw [read] at assigned
  have text_eq : keyText key ++ ' ' :: '=' :: ' ' :: '[' :: (written ++ ['\n']) =
      (keyText key ++ ' ' :: '=' :: ' ' :: '[' :: written) ++ '\n' :: [] := by simp
  rw [text_eq] at assigned ⊢
  obtain ⟨changed, root_eq, -, last_line⟩ := lines_assignment stands focuses_nil absent
    ((opens_keyText key).append _) assigned
  rw [last_line, lines_nil, root_eq]
  rfl

/-- The layout of a list of records is read back as the list. -/
theorem lines_layout {records : List Record} (have_text : ∀ record ∈ records, record.IsWritten)
    (distinct : ∀ record ∈ records, record.keys.Nodup) {count : Nat}
    (enough_fuel : (layout key records).length ≤ fuel)
    (enough : (layout key records).length ≤ count) :
    lines (fuel + 1) count draft (layout key records) =
      .ok (base ++ [(key, .list (records.map fun record => .table record.entries))]) := by
  obtain ⟨depth, room⟩ : ∃ depth, Stack.toml = depth + 5 :=
    ⟨Stack.toml - 5, (Nat.sub_add_cancel Stack.five_le_toml).symm⟩
  rw [layout] at enough_fuel enough ⊢
  split_ifs at enough_fuel enough ⊢ with empty short
  · have read : value (fuel + 1) Stack.toml ('[' :: ([']'] ++ ['\n'])) =
        .ok (.list [], ['\n']) := by
      simp [value.eq_def, room, items, skipLines, isBlank, Except.map]
    rw [List.isEmpty_iff.mp empty]
    exact lines_bracketed stands absent read (by simp at enough; omega)
  · obtain ⟨list_short, each_short⟩ := length_le_listText records
    simp only [List.length_append, List.length_cons] at enough_fuel enough
    have read := value_listText fuel depth have_text distinct
      (fun record record_mem => Nat.le_trans (each_short record record_mem) (by omega)) (by omega)
      ['\n']
    rw [← room] at read
    exact lines_bracketed stands absent read (by omega)
  · have line_bound := Nat.le_trans (lineCount_le key records) enough
    obtain ⟨further, rfl⟩ : ∃ further, count = further + lineCount records :=
      ⟨count - lineCount records, by omega⟩
    have nonempty : records ≠ [] := fun none => empty (List.isEmpty_iff.mpr none)
    have no_items : draft.root = withItems base key [] := stands.root_eq
    rw [lines_sections fuel absent no_items stands.frozen_eq have_text distinct further]
    simp [withItems, nonempty]

end

/-- The table of a record and, under a key after its entries, the list of the tables of others. -/
def tables (fields : Record) (key : String) (records : List Record) : Entries :=
  fields.entries ++ [(key, .list (records.map fun record => .table record.entries))]

/-- A document is written if its scalars are. -/
theorem document_eq {fields : Record} {key : String} {records : List Record}
    (fields_have_text : fields.IsWritten) (have_text : ∀ record ∈ records, record.IsWritten) :
    document fields key records = .ok (String.ofList (linesText fields ++ layout key records)) := by
  obtain ⟨written, written_eq, layout_eq⟩ := recordsPieces_eq key have_text
  rw [document, pieces, recordLines_eq fields_have_text, written_eq]
  simp [bind, Except.bind, pure, Except.pure, Except.map, layout_eq, linesText, List.flatMap_def]

/-- A document is written if its scalars are, and read back as what was written. -/
theorem read_document [Stack] {fields : Record} {key : String} {records : List Record}
    (fields_have_text : fields.IsWritten) (have_text : ∀ record ∈ records, record.IsWritten)
    (fields_distinct : (fields.keys ++ [key]).Nodup)
    (distinct : ∀ record ∈ records, record.keys.Nodup) :
    ∃ text, document fields key records = .ok text ∧
      read text.toList = .ok (tables fields key records) := by
  let input := linesText fields ++ layout key records
  have plain : '\r' ∉ input := by
    simp [input, not_mem_linesText fields_have_text, not_mem_layout key have_text]
  have fields_short := length_le_linesText fields
  have length_eq : input.length = (linesText fields).length + (layout key records).length :=
    List.length_append
  have keys_eq : fields.entries.map Prod.fst = fields.keys := by
    simp [Record.entries, Record.keys, Function.comp_def]
  have absent : key ∉ fields.entries.map Prod.fst := by
    rw [keys_eq]
    intro present
    exact List.disjoint_of_nodup_append fields_distinct present List.mem_cons_self
  obtain ⟨changed, stands, field_lines⟩ := lines_linesText input.length focuses_nil stands_start
    fields_have_text (List.Nodup.of_append_left fields_distinct) (layout key records)
  refine ⟨_, document_eq fields_have_text have_text, ?_⟩
  rw [read, String.toList_ofList, unifyBreaks_eq_self plain]
  calc
    lines (input.length + 1) (input.length + 1) {} input =
        lines (input.length + 1) (input.length + 1 - fields.length + fields.length) {} input := by
      rw [Nat.sub_add_cancel (by omega)]
    _ = lines (input.length + 1) (input.length + 1 - fields.length) changed
        (layout key records) := field_lines _
    _ = .ok (tables fields key records) :=
      lines_layout stands absent have_text distinct (by omega) (by omega)

end Toml
end PayGraph
