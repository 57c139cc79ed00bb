import PayGraph.Proofs.DistinctKeys
import PayGraph.Proofs.Followed
import PayGraph.Proofs.Report
import PayGraph.Proofs.Toml.Scalar
import PayGraph.Proofs.Toml.Text

/-!
# Reading written records in TOML

A scalar, an assignment, a record between braces and a list of such records are each read back from
their written form, and what follows them is left.
-/

namespace PayGraph

namespace Toml

theorem Opens.skipBlanks {written : List Char} (opens : Opens written) (rest : List Char) :
    skipBlanks (written ++ rest) = written ++ rest := by
  obtain ⟨first, others, rfl, first_eq⟩ := opens
  have visible : isBlank first = false := by
    rcases first_eq with bare | rfl
    · cases blank : isBlank first with
      | false => rfl
      | true =>
          simp only [isBlank, Bool.or_eq_true, decide_eq_true_eq] at blank
          rcases blank with rfl | rfl <;> cases bare
    · rfl
  simp [Toml.skipBlanks, visible]

theorem skipBlanks_space (input : List Char) : skipBlanks (' ' :: input) = skipBlanks input := rfl

theorem head?_ne_quote_of_parted {rest : List Char} (parted : Parted rest) :
    rest.head? ≠ some '"' := by
  cases parted <;> simp

theorem exists_literalText {literal : Literal} (has_text : literal.IsWritten) :
    ∃ written, literalText literal = .ok written := by
  cases literal with
  | number value => exact exists_numberText_iff.mpr has_text
  | text content => exact ⟨_, rfl⟩

section

variable {literal : Literal} {written : List Char} (written_eq : literalText literal = .ok written)

include written_eq

theorem value_literalText (fuel depth : Nat) {rest : List Char} (parted : Parted rest) :
    value fuel depth (written ++ rest) = .ok (literal.data, rest) := by
  cases literal with
  | number number =>
      obtain ⟨first, others, first_eq, bare⟩ := exists_bare_of_numberText written_eq
      have read := scalar_numberText written_eq parted
      have first_ne : first ≠ '"' ∧ first ≠ '\'' ∧ first ≠ '[' ∧ first ≠ '{' := by
        refine ⟨?_, ?_, ?_, ?_⟩ <;> rintro rfl <;> cases bare
      rw [first_eq, List.cons_append] at read ⊢
      rw [value.eq_def]
      simp [first_ne, read, Literal.data]
  | text content =>
      cases written_eq
      have read := text_textLiteral content (head?_ne_quote_of_parted parted)
      rw [value.eq_def]
      simp only [textLiteral, List.cons_append] at read ⊢
      rw [read]
      rfl

theorem opens_literalText : Opens written := by
  cases literal with
  | number number =>
      obtain ⟨first, others, first_eq, bare⟩ := exists_bare_of_numberText written_eq
      exact ⟨first, others, first_eq, Or.inl bare⟩
  | text content =>
      cases written_eq
      exact opens_textLiteral content

theorem not_mem_literalText : '\r' ∉ written := by
  cases literal with
  | number number => exact not_mem_numberText written_eq
  | text content =>
      cases written_eq
      exact not_mem_textLiteral content

end

/-- A key is read up to a blank or a bracket after it. -/
theorem keyParts_keyText (fuel : Nat) (key : String) {mark : Char} {rest : List Char}
    (not_bare : isBare mark = false) (not_dotted : (skipBlanks (mark :: rest)).head? ≠ some '.') :
    keyParts (fuel + 1) [] (keyText key ++ mark :: rest) =
      .ok ([key], skipBlanks (mark :: rest)) := by
  have ends : ∀ next ∈ (mark :: rest).head?, isBare next = false := by simpa using not_bare
  rw [keyParts, keyPart_keyText key ends]
  dsimp only
  split
  · rename_i dotted
    simp [dotted] at not_dotted
  · rfl

/-- A key is read with the value after it. -/
theorem assignment_keyText (fuel : Nat) (item : Scan Data) (key : String) {written : List Char}
    (visible : skipBlanks written = written) :
    assignment (fuel + 1) item (keyText key ++ ' ' :: '=' :: ' ' :: written) =
      (item written).map fun (value, after) => (([key], value), after) := by
  have key_read : keyParts (fuel + 1) [] (keyText key ++ ' ' :: '=' :: ' ' :: written) =
      .ok ([key], '=' :: ' ' :: written) :=
    keyParts_keyText fuel key (by decide) (by simp [skipBlanks, isBlank])
  simp only [assignment, key_read, skipBlanks_space, visible]

/-- Written form of a field whose value has one. -/
def fieldText (field : String × Literal) : List Char :=
  (assignmentText field).toOption.getD []

section

variable {field : String × Literal} (has_text : field.2.IsWritten)

include has_text

theorem exists_fieldText_eq :
    ∃ written, literalText field.2 = .ok written ∧
      assignmentText field = .ok (fieldText field) ∧
      fieldText field = keyText field.1 ++ ' ' :: '=' :: ' ' :: written := by
  obtain ⟨written, written_eq⟩ := exists_literalText has_text
  have text_eq : assignmentText field = .ok (keyText field.1 ++ ' ' :: '=' :: ' ' :: written) := by
    rw [assignmentText, written_eq]
    rfl
  have field_eq : fieldText field = keyText field.1 ++ ' ' :: '=' :: ' ' :: written := by
    rw [fieldText, text_eq]
    rfl
  exact ⟨written, written_eq, field_eq ▸ text_eq, field_eq⟩

theorem assignmentText_eq : assignmentText field = .ok (fieldText field) := by
  obtain ⟨-, -, text_eq, -⟩ := exists_fieldText_eq has_text
  exact text_eq

theorem assignment_fieldText (fuel parts depth : Nat) {rest : List Char} (parted : Parted rest) :
    assignment (fuel + 1) (value parts depth) (fieldText field ++ rest) =
      .ok (([field.1], field.2.data), rest) := by
  obtain ⟨written, written_eq, -, field_eq⟩ := exists_fieldText_eq has_text
  have visible := (opens_literalText written_eq).skipBlanks rest
  rw [field_eq, List.append_assoc]
  simp only [List.cons_append]
  rw [assignment_keyText fuel _ field.1 visible, value_literalText written_eq parts depth parted]
  rfl

theorem opens_fieldText : Opens (fieldText field) := by
  obtain ⟨written, -, -, field_eq⟩ := exists_fieldText_eq has_text
  obtain ⟨first, others, key_eq, first_eq⟩ := opens_keyText field.1
  exact ⟨first, _, by rw [field_eq, key_eq, List.cons_append], first_eq⟩

theorem not_mem_fieldText : '\r' ∉ fieldText field := by
  obtain ⟨written, written_eq, -, field_eq⟩ := exists_fieldText_eq has_text
  have value_plain := not_mem_literalText written_eq
  have key_plain := not_mem_keyText field.1
  simp [field_eq, value_plain, key_plain]

end

theorem addEntry_of_not_mem {key : String} {entries : Entries}
    (absent : key ∉ entries.map Prod.fst) (value : Data) :
    addEntry key value entries = .ok (entries ++ [(key, value)]) := by
  rw [addEntry, Entries.has_eq_false absent, if_neg Bool.false_ne_true]

theorem isNested_data (literal : Literal) : isNested literal.data = false := by
  cases literal with
  | number value => cases value <;> rfl
  | text content => rfl

theorem opens_intercalate {record : Record} (nonempty : record ≠ [])
    (has_text : record.IsWritten) : Opens ([',', ' '].intercalate (record.map fieldText)) := by
  obtain ⟨field, record, rfl⟩ := List.exists_cons_of_ne_nil nonempty
  have opens := opens_fieldText (has_text field List.mem_cons_self)
  cases record with
  | nil => simpa using opens
  | cons next record =>
      rw [List.map_cons, List.map_cons, List.intercalate_cons_cons, List.append_assoc]
      exact opens.append _

theorem skipBlanks_comma (input : List Char) : skipBlanks (',' :: input) = ',' :: input := rfl

/-- The fields between braces are added one after the other. -/
theorem inlineEntries_intercalate (fuel parts depth : Nat) {record : Record} {found : Entries}
    {count : Nat} (nonempty : record ≠ []) (has_text : record.IsWritten)
    (distinct : (found.map Prod.fst ++ record.keys).Nodup) (enough : record.length ≤ count)
    (rest : List Char) :
    inlineEntries (fuel + 1) (value parts depth) count [] found
        ([',', ' '].intercalate (record.map fieldText) ++ ' ' :: '}' :: rest) =
      .ok (found ++ record.entries, rest) := by
  induction record generalizing found count with
  | nil => exact absurd rfl nonempty
  | cons field record induction =>
      obtain ⟨count, rfl⟩ : ∃ fewer, count = fewer + 1 :=
        ⟨count - 1, by rw [List.length_cons] at enough; omega⟩
      have field_has_text := has_text field List.mem_cons_self
      have absent : field.1 ∉ found.map Prod.fst := by
        intro present
        exact List.disjoint_of_nodup_append distinct present List.mem_cons_self
      have added := addEntry_of_not_mem absent field.2.data
      cases record with
      | nil =>
          have read := assignment_fieldText field_has_text fuel parts depth
            (Parted.space ('}' :: rest))
          rw [List.map_singleton, List.intercalate_singleton, inlineEntries, read]
          simp [within, changeAt, added, skipBlanks, isBlank, Record.entries]
      | cons next record =>
          let remaining := [',', ' '].intercalate ((next :: record).map fieldText) ++
            ' ' :: '}' :: rest
          have text_eq : [',', ' '].intercalate ((field :: next :: record).map fieldText) ++
              ' ' :: '}' :: rest = fieldText field ++ ',' :: ' ' :: remaining := by
            simp [remaining, List.intercalate_cons_cons]
          have read := assignment_fieldText field_has_text fuel parts depth
            (Parted.comma (' ' :: remaining))
          have later_have_text : Record.IsWritten (next :: record) :=
            fun other other_mem => has_text other (List.mem_cons_of_mem _ other_mem)
          have opens : skipBlanks remaining = remaining :=
            (opens_intercalate (List.cons_ne_nil _ _) later_have_text).skipBlanks _
          have following : inlineEntries (fuel + 1) (value parts depth) count []
              (found ++ [(field.1, field.2.data)]) remaining =
              .ok (found ++ [(field.1, field.2.data)] ++ Record.entries (next :: record), rest) :=
            induction (List.cons_ne_nil _ _) later_have_text
              (by simpa [Record.keys] using distinct) (by simpa using enough)
          rw [text_eq, inlineEntries, read]
          simp only [within, List.any_nil, Bool.false_eq_true, if_false, List.getLastD_cons,
            List.getLastD_nil, List.dropLast_singleton, changeAt, added, skipBlanks_comma,
            skipBlanks_space, isNested_data, opens, following]
          simp [Record.entries]

theorem value_braced (fuel depth : Nat) {record : Record} (has_text : record.IsWritten)
    (distinct : record.keys.Nodup) (enough : record.length ≤ fuel) (rest : List Char) :
    value (fuel + 1) (depth + 3) ('{' :: ' ' :: ([',', ' '].intercalate (record.map fieldText) ++
      ' ' :: '}' :: rest)) = .ok (.table record.entries, rest) := by
  by_cases empty : record = []
  · subst empty
    simp [value, skipBlanks, isBlank, Record.entries]
  · have opens := opens_intercalate empty has_text
    have start_eq := opens.skipBlanks (' ' :: '}' :: rest)
    have read : inlineEntries (fuel + 1) (value (fuel + 1) depth) (fuel + 1) [] []
        ([',', ' '].intercalate (record.map fieldText) ++ ' ' :: '}' :: rest) =
        .ok (record.entries, rest) :=
      inlineEntries_intercalate fuel (fuel + 1) depth empty has_text (by simpa using distinct)
        (Nat.le_succ_of_le enough) rest
    obtain ⟨first, others, first_eq, first_kind⟩ := opens
    have not_brace : first ≠ '}' := by
      rintro rfl
      rcases first_kind with bare | quote
      · cases bare
      · cases quote
    rw [value.eq_def]
    simp only [skipBlanks_space, start_eq]
    rw [first_eq, List.cons_append] at read ⊢
    simp [not_brace, read, Except.map]

/-- Written form of a record in a list, without the comma after it. -/
def itemText (record : Record) : List Char :=
  [' ', ' ', ' ', ' ', '{', ' '] ++ [',', ' '].intercalate (record.map fieldText) ++ [' ', '}']

theorem mapM_assignmentText {record : Record} (has_text : record.IsWritten) :
    record.mapM assignmentText = .ok (record.map fieldText) :=
  mapM_eq_pure fun field field_mem => assignmentText_eq (has_text field field_mem)

theorem recordItem_eq {record : Record} (has_text : record.IsWritten) :
    recordItem record = .ok (itemText record ++ [',']) := by
  rw [recordItem, mapM_assignmentText has_text]
  simp [itemText, Except.map]

theorem recordLines_eq {record : Record} (has_text : record.IsWritten) :
    recordLines record = .ok (record.map fun field => fieldText field ++ ['\n']) := by
  rw [recordLines, mapM_assignmentText has_text]
  simp [Except.map]

/-- Written form of a list of records after its bracket. -/
def listText (records : List Record) : List Char :=
  '\n' :: (records.flatMap fun record => itemText record ++ [',', '\n']) ++ [']']

theorem listText_cons (record : Record) (records : List Record) :
    listText (record :: records) = '\n' :: (itemText record ++ ',' :: listText records) := by
  simp [listText]

theorem items_listText (fuel depth : Nat) {records : List Record} {count : Nat}
    (reversed : List Data) (have_text : ∀ record ∈ records, record.IsWritten)
    (distinct : ∀ record ∈ records, record.keys.Nodup)
    (short : ∀ record ∈ records, record.length ≤ fuel) (enough : records.length < count)
    (rest : List Char) :
    items (fuel + 1) (value (fuel + 1) (depth + 3)) count reversed (listText records ++ rest) =
      .ok (reversed.reverse ++ records.map (fun record => .table record.entries), rest) := by
  induction records generalizing reversed count with
  | nil =>
      obtain ⟨count, rfl⟩ : ∃ fewer, count = fewer + 1 := ⟨count - 1, by omega⟩
      simp [items, listText, skipLines, isBlank]
  | cons record records induction =>
      obtain ⟨count, rfl⟩ : ∃ fewer, count = fewer + 1 := ⟨count - 1, by omega⟩
      have read := value_braced fuel depth (have_text record List.mem_cons_self)
        (distinct record List.mem_cons_self) (short record List.mem_cons_self)
        (',' :: (listText records ++ rest))
      have following := induction (.table record.entries :: reversed)
        (fun other other_mem => have_text other (List.mem_cons_of_mem _ other_mem))
        (fun other other_mem => distinct other (List.mem_cons_of_mem _ other_mem))
        (fun other other_mem => short other (List.mem_cons_of_mem _ other_mem))
        (Nat.lt_of_succ_lt_succ enough)
      let item := '{' :: ' ' :: ([',', ' '].intercalate (record.map fieldText) ++
        ' ' :: '}' :: ',' :: (listText records ++ rest))
      have text_eq : listText (record :: records) ++ rest =
          '\n' :: ' ' :: ' ' :: ' ' :: ' ' :: item := by
        simp [listText_cons, itemText, item]
      have start_eq : skipLines (fuel + 1) (listText (record :: records) ++ rest) = .ok item := by
        simp [text_eq, skipLines, isBlank, item]
      have comma_eq : skipLines (fuel + 1) (',' :: (listText records ++ rest)) =
          .ok (',' :: (listText records ++ rest)) := by
        simp [skipLines, isBlank]
      rw [items, start_eq]
      simp [item, read, comma_eq, following]

/-- A list of records is read back. -/
theorem value_listText (fuel depth : Nat) {records : List Record}
    (have_text : ∀ record ∈ records, record.IsWritten)
    (distinct : ∀ record ∈ records, record.keys.Nodup)
    (short : ∀ record ∈ records, record.length ≤ fuel) (enough : records.length ≤ fuel)
    (rest : List Char) :
    value (fuel + 1) (depth + 5) ('[' :: (listText records ++ rest)) =
      .ok (.list (records.map fun record => .table record.entries), rest) := by
  have read := items_listText fuel depth [] have_text distinct short (Nat.lt_succ_of_le enough) rest
  rw [value.eq_def]
  simp only [read]
  rfl

theorem not_mem_intercalate {record : Record} (has_text : record.IsWritten) :
    '\r' ∉ [',', ' '].intercalate (record.map fieldText) := by
  induction record with
  | nil => simp
  | cons field record induction =>
      have first_plain := not_mem_fieldText (has_text field List.mem_cons_self)
      cases record with
      | nil => simpa using first_plain
      | cons next record =>
          have others_plain := induction
            fun other other_mem => has_text other (List.mem_cons_of_mem _ other_mem)
          rw [List.map_cons, List.map_cons, List.intercalate_cons_cons]
          simp only [List.map_cons] at others_plain
          simp [first_plain, others_plain]

theorem not_mem_itemText {record : Record} (has_text : record.IsWritten) :
    '\r' ∉ itemText record := by
  simp [itemText, not_mem_intercalate has_text]

theorem not_mem_listText {records : List Record}
    (have_text : ∀ record ∈ records, record.IsWritten) : '\r' ∉ listText records := by
  induction records with
  | nil => simp [listText]
  | cons record records induction =>
      have first_plain := not_mem_itemText (have_text record List.mem_cons_self)
      have others_plain := induction
        fun other other_mem => have_text other (List.mem_cons_of_mem _ other_mem)
      simp [listText_cons, first_plain, others_plain]

end Toml
end PayGraph
