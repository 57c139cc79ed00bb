import PayGraph.Proofs.DistinctKeys
import PayGraph.Proofs.Json.Scalar
import PayGraph.Proofs.Json.Text

/-!
# Reading written documents in JSON

Every value is read back from its written form, however deeply it is nested.  The items of a list
and the entries of a table stand on lines of their own, so what follows each of them starts with a
comma or a line break.
-/

namespace PayGraph

/-- Data that JSON holds, nested at most so deep: whole numbers have few enough digits to be read,
and no table has two entries with one key. -/
inductive Data.IsJson : Nat → Data → Prop
  | null {depth : Nat} : IsJson depth .null
  | boolean {depth : Nat} (value : Bool) : IsJson depth (.boolean value)
  | whole {depth : Nat} {value : Int} :
      value.natAbs < Nat.pow 10 digitLimit →
      IsJson depth (.whole value)
  | real {depth : Nat} (value : Binary64) : IsJson depth (.real value)
  | text {depth : Nat} (content : String) : IsJson depth (.text content)
  | list {depth : Nat} {items : List Data} :
      (∀ item ∈ items, IsJson depth item) →
      IsJson (depth + 1) (.list items)
  | table {depth : Nat} {entries : Entries} :
      (entries.map Prod.fst).Nodup →
      (∀ entry ∈ entries, IsJson depth entry.2) →
      IsJson (depth + 1) (.table entries)

namespace Json

/-- Written form of a value that has one. -/
def textOf (level : Nat) (data : Data) : List Char :=
  (write level data).toOption.getD []

/-- The text starts with neither a blank nor a closing bracket. -/
def Opens (written : List Char) : Prop :=
  ∃ first others, written = first :: others ∧ isBlank first = false ∧ first ≠ ']'

/-- A value is written at a level, and read back from there whatever divides it from what
follows. -/
structure ReadBack [Halves] (depth level : Nat) (data : Data) : Prop where
  written : write level data = .ok (textOf level data)
  opens : Opens (textOf level data)
  unbroken : '\r' ∉ textOf level data
  read {parts : Nat} {rest : List Char} : (textOf level data).length ≤ parts → Divided rest →
    value parts depth (textOf level data ++ rest) = .ok (data, rest)

theorem textOf_eq {level : Nat} {data : Data} {text : List Char}
    (written : write level data = .ok text) : textOf level data = text := by
  rw [textOf, written]
  rfl

theorem skip_cons {first : Char} (visible : isBlank first = false) (rest : List Char) :
    skip (first :: rest) = first :: rest := by
  rw [skip, List.dropWhile_cons_of_neg (by simp [visible])]

theorem Opens.skip {written : List Char} (opens : Opens written) (rest : List Char) :
    skip (written ++ rest) = written ++ rest := by
  obtain ⟨first, others, rfl, visible, -⟩ := opens
  rw [List.cons_append, skip_cons visible]

theorem skip_lineBreak (level : Nat) (rest : List Char) :
    skip (lineBreak level ++ rest) = skip rest := by
  have blank : ∀ character ∈ lineBreak level, isBlank character = true := by
    intro character character_mem
    rcases List.mem_cons.mp character_mem with rfl | space
    · rfl
    · rw [List.eq_of_mem_replicate space]
      rfl
  rw [Json.skip, Json.skip, List.dropWhile_append_of_pos blank]

theorem not_mem_lineBreak (level : Nat) : '\r' ∉ lineBreak level := by
  simp [lineBreak]

theorem divided_lineBreak (level : Nat) (rest : List Char) : Divided (lineBreak level ++ rest) :=
  divided_line _

section Scalars

variable [Halves] {depth level : Nat}

theorem readBack_of_scalar {data : Data} {first : Char} {others : List Char}
    (written : write level data = .ok (first :: others))
    (plain : isBlank first = false ∧ first ≠ ']' ∧ first ≠ '"' ∧ first ≠ '[' ∧ first ≠ '{')
    (unbroken : '\r' ∉ first :: others)
    (read : ∀ {rest}, Divided rest → scalar (first :: others ++ rest) = .ok (data, rest)) :
    ReadBack depth level data where
  written := by rw [textOf_eq written, written]
  opens := ⟨first, others, textOf_eq written, plain.1, plain.2.1⟩
  unbroken := by rwa [textOf_eq written]
  read {parts rest} _ divided := by
    rw [textOf_eq written, ← read divided, value.eq_def]
    simp [plain]

theorem readBack_of_numeral {data : Data} {negative : Bool} {numeral : Numeral}
    (written : write level data = .ok (Numeral.signed negative numeral.text))
    (stands : numeral.data negative = .ok data) : ReadBack depth level data := by
  obtain ⟨first, others, text_eq, first_digit⟩ := numeral.exists_first_digit
  have digit_plain : isBlank first = false ∧ first ≠ ']' ∧ first ≠ '"' ∧ first ≠ '[' ∧
      first ≠ '{' := by
    refine ⟨?_, ?_, ?_, ?_, ?_⟩
    · cases blank : isBlank first with
      | false => rfl
      | true =>
          simp only [isBlank, Bool.or_eq_true, decide_eq_true_eq] at blank
          rcases blank with ((rfl | rfl) | rfl) | rfl <;> cases first_digit
    all_goals
      rintro rfl
      cases first_digit
  have unsigned := numeral.not_mem_text
  have read {rest : List Char} (divided : Divided rest) :
      scalar (Numeral.signed negative numeral.text ++ rest) = .ok (data, rest) := by
    rw [scalar_append divided, stands]
    rfl
  cases negative
  · rw [Numeral.signed, if_neg Bool.false_ne_true, text_eq] at written read
    rw [text_eq] at unsigned
    exact readBack_of_scalar written digit_plain unsigned read
  · rw [Numeral.signed, if_pos rfl] at written read
    exact readBack_of_scalar written (by decide) (by simpa using unsigned) read

theorem readBack_null : ReadBack depth level .null :=
  readBack_of_scalar rfl (by decide) (by decide) fun _ => rfl

theorem readBack_boolean (value : Bool) : ReadBack depth level (.boolean value) := by
  cases value
  · exact readBack_of_scalar rfl (by decide) (by decide) fun _ => rfl
  · exact readBack_of_scalar rfl (by decide) (by decide) fun _ => rfl

theorem readBack_whole {value : Int} (few : value.natAbs < Nat.pow 10 digitLimit) :
    ReadBack depth level (.whole value) := by
  refine readBack_of_numeral ?_ (Numeral.data_ofNat few)
  rw [← Numeral.wholeText_eq, write, boundedText, if_pos few]

theorem readBack_real (value : Binary64) : ReadBack depth level (.real value) := by
  cases value with
  | nan => exact readBack_of_scalar rfl (by decide) (by decide) fun _ => rfl
  | infinite negative =>
      cases negative
      · exact readBack_of_scalar rfl (by decide) (by decide) fun _ => rfl
      · exact readBack_of_scalar rfl (by decide) (by decide) fun _ => rfl
  | finite negative rank =>
      obtain ⟨numeral, text_eq, stands⟩ := Numeral.exists_text_shortest rank
      refine readBack_of_numeral ?_ (stands negative)
      rw [text_eq]
      rfl

theorem readBack_text (content : String) : ReadBack depth level (.text content) where
  written := rfl
  opens := ⟨'"', _, rfl, by decide, by decide⟩
  unbroken := not_mem_textLiteral content
  read {parts rest} _ _ := by
    obtain ⟨body, text_eq, read⟩ := exists_body_of_textLiteral content rest
    change value parts depth (textLiteral content ++ rest) = _
    rw [text_eq, value.eq_def]
    simp [read, Except.map]

end Scalars

section Lists

variable {depth level : Nat}

/-- Written form of the items after the first. -/
def itemsText (level : Nat) (items : List Data) : List Char :=
  items.flatMap fun item => ',' :: lineBreak level ++ textOf level item

theorem itemsText_cons (item : Data) (items : List Data) (rest : List Char) :
    itemsText level (item :: items) ++ rest =
      ',' :: (lineBreak level ++ (textOf level item ++ (itemsText level items ++ rest))) := by
  simp [itemsText]

theorem length_itemsText_cons (level : Nat) (item : Data) (items : List Data) :
    (itemsText level (item :: items)).length =
      1 + (lineBreak level).length + (textOf level item).length +
        (itemsText level items).length := by
  simp [itemsText]
  omega

theorem length_le_itemsText (level : Nat) (items : List Data) :
    items.length ≤ (itemsText level items).length := by
  induction items with
  | nil => exact Nat.le_refl 0
  | cons item items induction =>
      rw [length_itemsText_cons, List.length_cons]
      omega

variable [Halves]

theorem writeItems_eq {items : List Data} (each : ∀ item ∈ items, ReadBack depth level item) :
    writeItems level items = .ok (itemsText level items) := by
  induction items with
  | nil => rfl
  | cons item items induction =>
      obtain ⟨first, others⟩ := List.forall_mem_cons.mp each
      rw [writeItems, first.written, induction others]
      rfl

theorem not_mem_itemsText {items : List Data} (each : ∀ item ∈ items, ReadBack depth level item) :
    '\r' ∉ itemsText level items := by
  simp only [itemsText, List.mem_flatMap, not_exists, not_and]
  intro item item_mem
  simp [not_mem_lineBreak, (each item item_mem).unbroken]

/-- The items of a list are read back one after the other. -/
theorem items_itemsText {first : Data} {others : List Data} {parts fuel : Nat} (outer : Nat)
    (reversed : List Data) (each : ∀ item ∈ first :: others, ReadBack depth level item)
    (short : (textOf level first).length + (itemsText level others).length ≤ parts)
    (enough : others.length < fuel) (rest : List Char) :
    items (value parts depth) fuel reversed
        (textOf level first ++ (itemsText level others ++ (lineBreak outer ++ ']' :: rest))) =
      .ok (reversed.reverse ++ first :: others, rest) := by
  induction others generalizing first reversed fuel with
  | nil =>
      obtain ⟨fuel, rfl⟩ : ∃ fewer, fuel = fewer + 1 := ⟨fuel - 1, by omega⟩
      have read := (each first List.mem_cons_self).read (Nat.le_of_add_right_le short)
        (divided_lineBreak outer (']' :: rest))
      have closed : skip (lineBreak outer ++ ']' :: rest) = ']' :: rest := by
        rw [skip_lineBreak, skip_cons (by decide)]
      rw [itemsText, List.flatMap_nil, List.nil_append, items, read]
      simp [closed]
  | cons next others induction =>
      obtain ⟨fuel, rfl⟩ : ∃ fewer, fuel = fewer + 1 := ⟨fuel - 1, by omega⟩
      obtain ⟨first_back, later⟩ := List.forall_mem_cons.mp each
      have length_eq := length_itemsText_cons level next others
      let remaining := textOf level next ++
        (itemsText level others ++ (lineBreak outer ++ ']' :: rest))
      have read := first_back.read (Nat.le_of_add_right_le short)
        (divided_comma (lineBreak level ++ remaining))
      have comma_eq : skip (',' :: (lineBreak level ++ remaining)) =
          ',' :: (lineBreak level ++ remaining) := skip_cons (by decide) _
      have start_eq : skip (lineBreak level ++ remaining) = remaining := by
        rw [skip_lineBreak]
        exact (later next List.mem_cons_self).opens.skip _
      have following := induction (first :: reversed) later (by omega)
        (Nat.lt_of_succ_lt_succ enough)
      rw [itemsText_cons, items, read]
      simp only [comma_eq, start_eq, remaining, following, List.reverse_cons, List.append_assoc,
        List.singleton_append]

theorem write_list_eq {first : Data} {others : List Data}
    (each : ∀ item ∈ first :: others, ReadBack depth (level + 1) item) :
    write level (.list (first :: others)) =
      .ok ('[' :: (lineBreak (level + 1) ++ (textOf (level + 1) first ++
        (itemsText (level + 1) others ++ (lineBreak level ++ [']']))))) := by
  obtain ⟨first_back, later⟩ := List.forall_mem_cons.mp each
  rw [write, first_back.written, writeItems_eq later]
  simp [bind, Except.bind, pure, Except.pure]

theorem readBack_list {items : List Data}
    (each : ∀ item ∈ items, ReadBack depth (level + 1) item) :
    ReadBack (depth + 1) level (.list items) := by
  cases items with
  | nil =>
      have text_eq : textOf level (.list []) = ['[', ']'] := rfl
      refine ⟨rfl, ⟨'[', [']'], rfl, by decide, by decide⟩, by rw [text_eq]; decide, ?_⟩
      intro parts rest _ _
      simp [text_eq, value.eq_def, skip, isBlank]
  | cons first others =>
      obtain ⟨first_back, later⟩ := List.forall_mem_cons.mp each
      have written := write_list_eq each
      have text_eq := textOf_eq written
      refine ⟨text_eq ▸ written, ⟨'[', _, text_eq, by decide, by decide⟩, ?_, ?_⟩
      · simp [text_eq, not_mem_lineBreak, first_back.unbroken, not_mem_itemsText later]
      · intro parts rest short _
        have count := length_le_itemsText (level + 1) others
        rw [text_eq] at short ⊢
        simp only [List.length_cons, List.length_append] at short
        have start_eq := first_back.opens.skip
          (itemsText (level + 1) others ++ (lineBreak level ++ ']' :: rest))
        have read : items (value parts depth) parts [] (textOf (level + 1) first ++
            (itemsText (level + 1) others ++ (lineBreak level ++ ']' :: rest))) =
            .ok (first :: others, rest) :=
          items_itemsText level [] each (by omega) (by omega) rest
        obtain ⟨mark, after, first_eq, -, not_bracket⟩ := first_back.opens
        simp only [List.cons_append, List.append_assoc, List.nil_append]
        rw [value.eq_def]
        simp only [skip_lineBreak, start_eq]
        rw [first_eq, List.cons_append] at read ⊢
        simp [not_bracket, read, Except.map]

end Lists

section Tables

variable {depth level : Nat}

/-- Written form of an entry. -/
def entryText (level : Nat) (entry : String × Data) : List Char :=
  textLiteral entry.1 ++ ':' :: ' ' :: textOf level entry.2

/-- Written form of the entries after the first. -/
def entriesText (level : Nat) (entries : Entries) : List Char :=
  entries.flatMap fun entry => ',' :: lineBreak level ++ entryText level entry

theorem entriesText_cons (entry : String × Data) (entries : Entries) (rest : List Char) :
    entriesText level (entry :: entries) ++ rest =
      ',' :: (lineBreak level ++
        (entryText level entry ++ (entriesText level entries ++ rest))) := by
  simp [entriesText]

theorem length_entriesText_cons (level : Nat) (entry : String × Data) (entries : Entries) :
    (entriesText level (entry :: entries)).length =
      1 + (lineBreak level).length + (entryText level entry).length +
        (entriesText level entries).length := by
  simp [entriesText]
  omega

theorem length_le_entriesText (level : Nat) (entries : Entries) :
    entries.length ≤ (entriesText level entries).length := by
  induction entries with
  | nil => exact Nat.le_refl 0
  | cons entry entries induction =>
      rw [length_entriesText_cons, List.length_cons]
      omega

theorem length_le_entryText (level : Nat) (entry : String × Data) :
    (textOf level entry.2).length ≤ (entryText level entry).length := by
  simp [entryText]
  omega

theorem skip_entryText (entry : String × Data) (rest : List Char) :
    skip (entryText level entry ++ rest) = entryText level entry ++ rest := by
  rw [entryText, textLiteral, List.append_assoc, List.append_assoc, List.cons_append,
    skip_cons (by decide)]

theorem not_mem_of_distinct {entry : String × Data} {found others : Entries}
    (distinct : ((found ++ entry :: others).map Prod.fst).Nodup) :
    entry.1 ∉ found.map Prod.fst := by
  rw [List.map_append, List.map_cons] at distinct
  intro present
  exact (List.nodup_append.mp distinct).2.2 _ present _ List.mem_cons_self rfl

variable [Halves]

theorem writeEntries_eq {entries : Entries}
    (each : ∀ entry ∈ entries, ReadBack depth level entry.2) :
    writeEntries level entries = .ok (entriesText level entries) := by
  induction entries with
  | nil => rfl
  | cons entry entries induction =>
      obtain ⟨first, others⟩ := List.forall_mem_cons.mp each
      rw [writeEntries, first.written, induction others]
      simp [entriesText, entryText, bind, Except.bind, pure, Except.pure]

theorem not_mem_entryText {entry : String × Data} (back : ReadBack depth level entry.2) :
    '\r' ∉ entryText level entry := by
  simp [entryText, not_mem_textLiteral, back.unbroken]

theorem not_mem_entriesText {entries : Entries}
    (each : ∀ entry ∈ entries, ReadBack depth level entry.2) :
    '\r' ∉ entriesText level entries := by
  simp only [entriesText, List.mem_flatMap, not_exists, not_and]
  intro entry entry_mem
  simp [not_mem_lineBreak, not_mem_entryText (each entry entry_mem)]

/-- What is read after an entry: the end of the table, or a comma and further entries. -/
def moreEntries (item : Scan Data) (fuel : Nat) (found : Entries) : Scan Entries
  | '}' :: rest => .ok (found, rest)
  | ',' :: rest => entries item fuel found (skip rest)
  | _ => .error .malformed

theorem entries_entryText {entry : String × Data} {found : Entries} {parts fuel : Nat}
    {after : List Char} (back : ReadBack depth level entry.2)
    (absent : entry.1 ∉ found.map Prod.fst) (short : (entryText level entry).length ≤ parts)
    (divided : Divided after) :
    entries (value parts depth) (fuel + 1) found (entryText level entry ++ after) =
      moreEntries (value parts depth) fuel (found ++ [entry]) (skip after) := by
  obtain ⟨body, text_eq, read_key⟩ :=
    exists_body_of_textLiteral entry.1 (':' :: ' ' :: (textOf level entry.2 ++ after))
  have read := back.read (Nat.le_trans (length_le_entryText level entry) short) divided
  have colon_eq : skip (':' :: ' ' :: (textOf level entry.2 ++ after)) =
      ':' :: ' ' :: (textOf level entry.2 ++ after) := skip_cons (by decide) _
  have value_eq : skip (' ' :: (textOf level entry.2 ++ after)) = textOf level entry.2 ++ after :=
    back.opens.skip after
  have whole_eq : entryText level entry ++ after = '"' :: body := by
    rw [← text_eq, entryText, List.append_assoc, List.cons_append, List.cons_append]
  have inserted : found.insert entry.1 entry.2 = found ++ [entry] :=
    Entries.insert_of_not_mem absent entry.2
  simp only [whole_eq, entries, read_key, colon_eq, value_eq, read, inserted]
  rfl

theorem entries_entriesText {first : String × Data} {others found : Entries} {parts fuel : Nat}
    (outer : Nat) (each : ∀ entry ∈ first :: others, ReadBack depth level entry.2)
    (distinct : ((found ++ first :: others).map Prod.fst).Nodup)
    (short : (entryText level first).length + (entriesText level others).length ≤ parts)
    (enough : others.length < fuel) (rest : List Char) :
    entries (value parts depth) fuel found
        (entryText level first ++ (entriesText level others ++ (lineBreak outer ++ '}' :: rest))) =
      .ok (found ++ first :: others, rest) := by
  induction others generalizing first found fuel with
  | nil =>
      obtain ⟨fuel, rfl⟩ : ∃ fewer, fuel = fewer + 1 := ⟨fuel - 1, by omega⟩
      have closed : skip (lineBreak outer ++ '}' :: rest) = '}' :: rest := by
        rw [skip_lineBreak, skip_cons (by decide)]
      rw [entriesText, List.flatMap_nil, List.nil_append,
        entries_entryText (each first List.mem_cons_self) (not_mem_of_distinct distinct)
          (Nat.le_of_add_right_le short) (divided_lineBreak outer _)]
      simp only [closed, moreEntries]
  | cons next others induction =>
      obtain ⟨fuel, rfl⟩ : ∃ fewer, fuel = fewer + 1 := ⟨fuel - 1, by omega⟩
      obtain ⟨first_back, later⟩ := List.forall_mem_cons.mp each
      have length_eq := length_entriesText_cons level next others
      let remaining := entryText level next ++
        (entriesText level others ++ (lineBreak outer ++ '}' :: rest))
      have comma_eq : skip (',' :: (lineBreak level ++ remaining)) =
          ',' :: (lineBreak level ++ remaining) := skip_cons (by decide) _
      have start_eq : skip (lineBreak level ++ remaining) = remaining := by
        rw [skip_lineBreak, skip_entryText]
      have following : entries (value parts depth) fuel (found ++ [first]) remaining =
          .ok (found ++ [first] ++ next :: others, rest) :=
        induction later (by simpa using distinct) (by omega) (Nat.lt_of_succ_lt_succ enough)
      rw [entriesText_cons, entries_entryText first_back (not_mem_of_distinct distinct)
        (Nat.le_of_add_right_le short) (divided_comma _)]
      simp only [moreEntries, comma_eq, start_eq, remaining, following, List.append_assoc,
        List.singleton_append]

theorem write_table_eq {first : String × Data} {others : Entries}
    (each : ∀ entry ∈ first :: others, ReadBack depth (level + 1) entry.2) :
    write level (.table (first :: others)) =
      .ok ('{' :: (lineBreak (level + 1) ++ (entryText (level + 1) first ++
        (entriesText (level + 1) others ++ (lineBreak level ++ ['}']))))) := by
  obtain ⟨first_back, later⟩ := List.forall_mem_cons.mp each
  obtain ⟨key, content⟩ := first
  rw [write, first_back.written, writeEntries_eq later]
  simp [entryText, bind, Except.bind, pure, Except.pure]

/-- A table is read back if its values are and no key is given twice. -/
theorem readBack_table {entries : Entries} (distinct : (entries.map Prod.fst).Nodup)
    (each : ∀ entry ∈ entries, ReadBack depth (level + 1) entry.2) :
    ReadBack (depth + 1) level (.table entries) := by
  cases entries with
  | nil =>
      have text_eq : textOf level (.table []) = ['{', '}'] := rfl
      refine ⟨rfl, ⟨'{', ['}'], rfl, by decide, by decide⟩, by rw [text_eq]; decide, ?_⟩
      intro parts rest _ _
      simp [text_eq, value.eq_def, skip, isBlank]
  | cons first others =>
      obtain ⟨first_back, later⟩ := List.forall_mem_cons.mp each
      have written := write_table_eq each
      have text_eq := textOf_eq written
      refine ⟨text_eq ▸ written, ⟨'{', _, text_eq, by decide, by decide⟩, ?_, ?_⟩
      · simp [text_eq, not_mem_lineBreak, not_mem_entryText first_back, not_mem_entriesText later]
      · intro parts rest short _
        have count := length_le_entriesText (level + 1) others
        rw [text_eq] at short ⊢
        simp only [List.length_cons, List.length_append] at short
        have start_eq : skip (entryText (level + 1) first ++
            (entriesText (level + 1) others ++ (lineBreak level ++ '}' :: rest))) = _ :=
          skip_entryText first _
        have read : entries (value parts depth) parts [] (entryText (level + 1) first ++
            (entriesText (level + 1) others ++ (lineBreak level ++ '}' :: rest))) =
            .ok (first :: others, rest) :=
          entries_entriesText level each distinct (by omega) (by omega) rest
        obtain ⟨after, first_eq⟩ : ∃ after, entryText (level + 1) first = '"' :: after :=
          ⟨_, rfl⟩
        simp only [List.cons_append, List.append_assoc, List.nil_append]
        rw [value.eq_def]
        simp only [skip_lineBreak, start_eq]
        rw [first_eq, List.cons_append] at read ⊢
        simp [read, Except.map]

end Tables

/-- Whatever JSON holds is read back at every level. -/
theorem readBack [Halves] {depth : Nat} {data : Data} (holds : data.IsJson depth) (level : Nat) :
    ReadBack depth level data := by
  induction holds generalizing level with
  | null => exact readBack_null
  | boolean value => exact readBack_boolean value
  | whole few => exact readBack_whole few
  | real value => exact readBack_real value
  | text content => exact readBack_text content
  | list _ induction => exact readBack_list fun item item_mem => induction item item_mem (level + 1)
  | table distinct _ induction =>
      exact readBack_table distinct fun entry entry_mem => induction entry entry_mem (level + 1)

/-- A document is written, and read back as what was written. -/
theorem read_document [Host] {data : Data} (holds : data.IsJson Stack.json) :
    ∃ text, document data = .ok text ∧ '\r' ∉ text.toList ∧ read text.toList = .ok data := by
  have back := readBack holds 0
  have start_eq := back.opens.skip []
  have found := back.read (Nat.le_refl _) divided_nil
  refine ⟨String.ofList (textOf 0 data), ?_, ?_, ?_⟩
  · rw [document, back.written]
    rfl
  · simpa using back.unbroken
  · rw [List.append_nil] at start_eq found
    simp only [read, String.toList_ofList, start_eq, found]
    rfl

end Json
end PayGraph
