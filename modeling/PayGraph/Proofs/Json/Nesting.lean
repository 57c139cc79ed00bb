import PayGraph.Data.Shown
import PayGraph.Proofs.Association
import PayGraph.Proofs.Json.Grounds
import PayGraph.Proofs.Outcomes

/-!
# Nesting of what the JSON reader finds

Every list and every table is opened by a bracket of its own, so a value is nested no deeper than
there are brackets in the part of a text that it was read from.
-/

namespace PayGraph

namespace Data

theorem nestingItems_le_iff {items : List Data} {bound : Nat} :
    nestingItems items ≤ bound ↔ ∀ item ∈ items, item.nesting < bound := by
  induction items with
  | nil => simp [nestingItems]
  | cons item rest induction =>
      rw [nestingItems, Nat.max_le, induction, Nat.succ_le_iff, List.forall_mem_cons]

theorem nestingEntries_le_iff {entries : Entries} {bound : Nat} :
    nestingEntries entries ≤ bound ↔ ∀ entry ∈ entries, entry.2.nesting < bound := by
  induction entries with
  | nil => simp [nestingEntries]
  | cons entry rest induction =>
      rw [nestingEntries, Nat.max_le, induction, Nat.succ_le_iff, List.forall_mem_cons]

theorem nesting_lt_of_mem {items : List Data} {item : Data} (item_mem : item ∈ items) :
    item.nesting < (list items).nesting :=
  nestingItems_le_iff.mp Nat.le.refl item item_mem

theorem nesting_lt_of_lookup {entries : Entries} {key : String} {value : Data}
    (given : entries.lookup key = some value) : value.nesting < (table entries).nesting :=
  nestingEntries_le_iff.mp Nat.le.refl (key, value) (Association.mem_of_lookup given)

end Data

theorem Entries.mem_insert {entries : Entries} {key : String} {value : Data}
    {entry : String × Data} (entry_mem : entry ∈ entries.insert key value) :
    entry.2 = value ∨ entry ∈ entries := by
  revert entry_mem
  fun_cases insert entries key value with
  | case1 =>
      intro entry_mem
      obtain ⟨old, old_mem, same⟩ := List.mem_map.mp entry_mem
      split at same
      · exact Or.inl (congrArg Prod.snd same).symm
      · exact Or.inr (same ▸ old_mem)
  | case2 =>
      intro entry_mem
      rcases List.mem_append.mp entry_mem with earlier | last
      · exact Or.inr earlier
      · exact Or.inl (congrArg Prod.snd (List.mem_singleton.mp last))

namespace Json

theorem openings_skip_le (input : List Char) : openings (skip input) ≤ openings input :=
  openings_le_of_suffix (skip_suffix input)

theorem openings_le_of_skip_eq {input rest : List Char} {mark : Char}
    (skipped : skip input = mark :: rest) : openings rest ≤ openings input :=
  openings_le_of_suffix (suffix_of_skip_eq skipped)

theorem nesting_of_scalar {input rest : List Char} {found : Data}
    (read : scalar input = .ok (found, rest)) : found.nesting = 0 := by
  have expected {word : String} {value : Data} {input : List Char} (flat : value.nesting = 0)
      (read : expect word value input = .ok (found, rest)) : found.nesting = 0 := by
    revert read
    fun_cases expect word value input with
    | case1 =>
        rintro ⟨⟩
        exact flat
    | case2 => rintro ⟨⟩
  have numbered {negative : Bool} {input : List Char}
      (read : numeral negative input = .ok (found, rest)) : found.nesting = 0 := by
    revert read
    fun_cases numeral negative input with
    | case1 => rintro ⟨⟩
    | case2 =>
        intro read
        obtain ⟨whole, -, same⟩ := Except.exists_of_map_eq_ok read
        cases same
        rfl
    | case3 =>
        rintro ⟨⟩
        rfl
  revert read
  fun_cases scalar input with
  | case1 | case2 | case3 | case4 | case5 | case6 => exact expected rfl
  | case7 | case8 => exact numbered

/-- What a reader of values takes off a text has a bracket for every nesting. -/
def IsOpened (item : Scan Data) : Prop :=
  ∀ {input found rest}, item input = .ok (found, rest) →
    found.nesting + openings rest ≤ openings input

variable {item : Scan Data}

/-- Every item was read between the start of the items and what follows them. -/
theorem nesting_of_items (opened : IsOpened item) {fuel : Nat} {reversed found : List Data}
    {input rest : List Char} (read : items item fuel reversed input = .ok (found, rest)) :
    openings rest ≤ openings input ∧
      ∀ value ∈ found, value ∈ reversed ∨ value.nesting + openings rest ≤ openings input := by
  fun_induction items item fuel reversed input with
  | case1 | case2 | case5 => cases read
  | case3 fuel reversed input value afterValue item_read after closed =>
      cases read
      have value_opened := opened item_read
      have taken := openings_le_of_skip_eq closed
      refine ⟨by omega, fun other other_mem => ?_⟩
      rcases List.mem_cons.mp (List.mem_reverse.mp other_mem) with rfl | earlier
      · exact Or.inr (by omega)
      · exact Or.inl earlier
  | case4 fuel reversed input value afterValue item_read after divided induction =>
      have value_opened := opened item_read
      have taken := openings_le_of_skip_eq divided
      have skipped := openings_skip_le after
      obtain ⟨later_taken, later⟩ := induction read
      refine ⟨by omega, fun other other_mem => ?_⟩
      rcases later other other_mem with known | other_opened
      · rcases List.mem_cons.mp known with rfl | earlier
        · exact Or.inr (by omega)
        · exact Or.inl earlier
      · exact Or.inr (by omega)

theorem nesting_of_entries [Halves] (opened : IsOpened item) {fuel : Nat} {known found : Entries}
    {input rest : List Char} (read : entries item fuel known input = .ok (found, rest)) :
    openings rest ≤ openings input ∧ ∀ entry ∈ found,
      entry ∈ known ∨ entry.2.nesting + openings rest ≤ openings input := by
  have key_taken {afterQuote afterKey afterColon : List Char} {key : String}
      (read : textBody [] afterQuote = .ok (key, afterKey))
      (colon : skip afterKey = ':' :: afterColon) :
      openings (skip afterColon) ≤ openings ('"' :: afterQuote) := by
    have grounded : Grounded 1 0 ('"' :: afterQuote) (textBody [] afterQuote) :=
      (grounded_textBody [] afterQuote).cons '"'
    have body_taken := openings_le_of_suffix (grounded.of_ok read)
    have colon_taken := openings_le_of_skip_eq colon
    have skipped := openings_skip_le afterColon
    omega
  fun_induction entries item fuel known input with
  | case1 | case2 | case3 | case6 | case7 | case8 => cases read
  | case4 fuel known afterQuote key afterKey key_read afterColon colon value afterValue item_read
      after closed =>
      cases read
      have key_taken := key_taken key_read colon
      have value_opened := opened item_read
      have taken := openings_le_of_skip_eq closed
      refine ⟨by omega, fun entry entry_mem => ?_⟩
      rcases Entries.mem_insert entry_mem with same | earlier
      · exact Or.inr (by rw [same]; omega)
      · exact Or.inl earlier
  | case5 fuel known afterQuote key afterKey key_read afterColon colon value afterValue item_read
      after divided induction =>
      have key_taken := key_taken key_read colon
      have value_opened := opened item_read
      have taken := openings_le_of_skip_eq divided
      have skipped := openings_skip_le after
      obtain ⟨later_taken, later⟩ := induction read
      refine ⟨by omega, fun entry entry_mem => ?_⟩
      rcases later entry entry_mem with already | entry_opened
      · rcases Entries.mem_insert already with same | earlier
        · exact Or.inr (by rw [same]; omega)
        · exact Or.inl earlier
      · exact Or.inr (by omega)

theorem isOpened_value [Halves] (parts depth : Nat) : IsOpened (value parts depth) := by
  induction depth using Nat.strongRecOn with
  | ind depth induction =>
      intro input found rest read
      have taken := openings_le_of_suffix ((reads_value parts depth input).of_ok read)
      revert read
      fun_cases value parts depth input with
      | case1 =>
          intro read
          obtain ⟨_, -, same⟩ := Except.exists_of_map_eq_ok read
          cases same
          simpa [Data.nesting] using taken
      | case2 | case5 => rintro ⟨⟩
      | case3 | case6 =>
          rintro ⟨⟩
          simpa [Data.nesting, Data.nestingItems, Data.nestingEntries] using taken
      | case4 after inner =>
          intro read
          obtain ⟨⟨inside, rest⟩, inside_read, same⟩ := Except.exists_of_map_eq_ok read
          cases same
          obtain ⟨inside_taken, inside_opened⟩ :=
            nesting_of_items (induction inner (Nat.lt_succ_self inner)) inside_read
          have skipped := openings_skip_le after
          have bound : Data.nestingItems inside ≤ openings after + 1 - openings rest := by
            refine Data.nestingItems_le_iff.mpr fun value value_mem => ?_
            have value_opened := (inside_opened value value_mem).resolve_left List.not_mem_nil
            omega
          rw [openings_cons (Or.inl rfl), Data.nesting]
          omega
      | case7 after inner =>
          intro read
          obtain ⟨⟨inside, rest⟩, inside_read, same⟩ := Except.exists_of_map_eq_ok read
          cases same
          obtain ⟨inside_taken, inside_opened⟩ :=
            nesting_of_entries (induction inner (Nat.lt_succ_self inner)) inside_read
          have skipped := openings_skip_le after
          have bound : Data.nestingEntries inside ≤ openings after + 1 - openings rest := by
            refine Data.nestingEntries_le_iff.mpr fun entry entry_mem => ?_
            have entry_opened := (inside_opened entry entry_mem).resolve_left List.not_mem_nil
            omega
          rw [openings_cons (Or.inr rfl), Data.nesting]
          omega
      | case8 =>
          intro read
          rw [nesting_of_scalar read, Nat.zero_add]
          exact taken

/-- The value of a document is nested no deeper than there are brackets in it. -/
theorem nesting_of_read [Host] {document : List Char} {found : Data}
    (is_read : read document = .ok found) : found.nesting ≤ openings document := by
  revert is_read
  fun_cases read document with
  | case1 | case3 => rintro ⟨⟩
  | case2 held rest value_read =>
      rintro ⟨⟩
      have opened := isOpened_value document.length Stack.json value_read
      have skipped := openings_skip_le document
      omega

end Json
end PayGraph
