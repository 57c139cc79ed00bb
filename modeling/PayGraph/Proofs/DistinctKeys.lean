import Mathlib.Data.List.Nodup
import PayGraph.Files.Content
import PayGraph.Proofs.Association
import PayGraph.Proofs.Json.Grounds
import PayGraph.Proofs.Outcomes
import PayGraph.Proofs.Toml.Grounds

/-!
# Distinct keys

A document never gives one key two values: in JSON a later value takes the place of an earlier one,
and in TOML a second value is refused.  Every statement of a TOML document changes the table read so
far along a path, so it is enough that each change keeps the keys of a table distinct.
-/

namespace PayGraph

namespace Entries

variable {entries : Entries} {key : String}

theorem has_iff : entries.has key = true ↔ key ∈ entries.map Prod.fst := by
  simp [has]

theorem has_eq_false (absent : key ∉ entries.map Prod.fst) : entries.has key = false := by
  rwa [Bool.eq_false_iff, ne_eq, has_iff]

theorem insert_of_not_mem (absent : key ∉ entries.map Prod.fst) (value : Data) :
    entries.insert key value = entries ++ [(key, value)] := by
  rw [insert, has_eq_false absent, if_neg Bool.false_ne_true]

theorem nodup_append_single (distinct : (entries.map Prod.fst).Nodup)
    (absent : ¬entries.has key = true) (value : Data) :
    ((entries ++ [(key, value)]).map Prod.fst).Nodup := by
  rw [has_iff] at absent
  rw [List.map_append]
  exact distinct.append (List.nodup_singleton key) (List.disjoint_singleton.mpr absent)

theorem nodup_insert (distinct : (entries.map Prod.fst).Nodup) (key : String) (value : Data) :
    ((entries.insert key value).map Prod.fst).Nodup := by
  rw [insert]
  split
  · rwa [Association.map_fst_replace]
  · exact nodup_append_single distinct ‹_› value

end Entries

namespace Json

theorem nodup_of_entries [Halves] {item : Scan Data} {fuel : Nat} {found changed : Entries}
    {input rest : List Char} (read : entries item fuel found input = .ok (changed, rest))
    (distinct : (found.map Prod.fst).Nodup) : (changed.map Prod.fst).Nodup := by
  fun_induction entries item fuel found input with
  | case1 | case2 | case3 | case6 | case7 | case8 => cases read
  | case4 =>
      cases read
      exact Entries.nodup_insert distinct _ _
  | case5 _ _ _ _ _ _ _ _ _ _ _ _ _ induction =>
      exact induction read (Entries.nodup_insert distinct _ _)

theorem scalar_ne_table (input rest : List Char) (found : Entries) :
    scalar input ≠ .ok (.table found, rest) := by
  have expected {word : String} {value : Data} (input : List Char) (plain : value ≠ .table found) :
      expect word value input ≠ .ok (.table found, rest) := by
    fun_cases expect word value input with
    | case1 =>
        rintro ⟨⟩
        exact plain rfl
    | case2 => rintro ⟨⟩
  have numbered (negative : Bool) (input : List Char) :
      numeral negative input ≠ .ok (.table found, rest) := by
    fun_cases numeral negative input with
    | case1 | case3 => rintro ⟨⟩
    | case2 =>
        intro read
        obtain ⟨whole, -, same⟩ := Except.exists_of_map_eq_ok read
        cases same
  fun_cases scalar input with
  | case1 | case2 | case3 | case4 | case5 | case6 =>
      refine expected _ ?_
      rintro ⟨⟩
  | case7 | case8 => exact numbered _ _

theorem nodup_of_value [Halves] {parts depth : Nat} {input rest : List Char} {found : Entries}
    (read : value parts depth input = .ok (.table found, rest)) : (found.map Prod.fst).Nodup := by
  revert read
  fun_cases value parts depth input with
  | case2 | case3 | case5 => rintro ⟨⟩
  | case6 =>
      rintro ⟨⟩
      exact List.nodup_nil
  | case1 | case4 =>
      intro read
      obtain ⟨_, -, same⟩ := Except.exists_of_map_eq_ok read
      cases same
  | case7 =>
      intro read
      obtain ⟨inner, inner_eq, same⟩ := Except.exists_of_map_eq_ok read
      cases same
      exact nodup_of_entries inner_eq List.nodup_nil
  | case8 => exact fun read => absurd read (scalar_ne_table _ _ _)

/-- The table that a document holds names no key twice. -/
theorem nodup_of_read [Host] {document : List Char} {found : Entries}
    (is_read : read document = .ok (.table found)) : (found.map Prod.fst).Nodup := by
  revert is_read
  fun_cases read document with
  | case1 | case3 => rintro ⟨⟩
  | case2 held rest value_eq =>
      rintro ⟨⟩
      exact nodup_of_value value_eq

end Json

namespace Toml

/-- A change keeps the keys of a table distinct. -/
def KeepsDistinct (change : Entries → Except ParseFault Entries) : Prop :=
  ∀ entries changed, change entries = .ok changed → (entries.map Prod.fst).Nodup →
    (changed.map Prod.fst).Nodup

theorem keepsDistinct_ok : KeepsDistinct .ok := by
  rintro entries changed ⟨⟩ distinct
  exact distinct

theorem keepsDistinct_addEntry (key : String) (value : Data) :
    KeepsDistinct (addEntry key value) := by
  intro entries changed added distinct
  revert added
  fun_cases addEntry key value entries with
  | case1 => rintro ⟨⟩
  | case2 absent =>
      rintro ⟨⟩
      exact Entries.nodup_append_single distinct absent value

theorem keepsDistinct_appendItem (key : String) : KeepsDistinct (Draft.appendItem key) := by
  intro entries changed appended distinct
  revert appended
  fun_cases Draft.appendItem key entries with
  | case1 unlisted =>
      rintro ⟨⟩
      refine Entries.nodup_append_single distinct ?_ _
      simp [Entries.has_iff, Association.mem_keys_iff, unlisted]
  | case2 =>
      rintro ⟨⟩
      exact Entries.nodup_insert distinct _ _
  | case3 => rintro ⟨⟩

/-- Along a path, a change replaces a value of the table or gives it a new key. -/
theorem KeepsDistinct.changeAt {change : Entries → Except ParseFault Entries}
    (keeps : KeepsDistinct change) (throughLists : Bool) (path : List String) :
    KeepsDistinct (changeAt throughLists change path) := by
  intro entries changed changed_eq distinct
  have inserted {key : String} {inner : Except ParseFault Entries} {make : Entries → Data}
      (made : (inner.map fun found => entries.insert key (make found)) = .ok changed) :
      (changed.map Prod.fst).Nodup := by
    obtain ⟨found, -, rfl⟩ := Except.exists_of_map_eq_ok made
    exact Entries.nodup_insert distinct key _
  revert changed_eq
  fun_cases Toml.changeAt throughLists change path entries with
  | case1 => exact fun changed_eq => keeps entries changed changed_eq distinct
  | case2 | case3 | case4 => exact inserted
  | case5 | case6 | case7 => rintro ⟨⟩

/-- No key of the draft is given twice. -/
def Draft.Distinct (draft : Draft) : Prop :=
  (draft.root.map Prod.fst).Nodup

variable {draft changed : Draft}

theorem Draft.Distinct.of_change {change : Entries → Except ParseFault Entries}
    {make : Entries → Draft} (keeps : KeepsDistinct change) (distinct : draft.Distinct)
    (root_eq : ∀ root, (make root).root = root)
    (changed_eq : (change draft.root).map make = .ok changed) : changed.Distinct := by
  obtain ⟨root, root_changed, rfl⟩ := Except.exists_of_map_eq_ok changed_eq
  rw [Draft.Distinct, root_eq]
  exact keeps draft.root root root_changed distinct

theorem Draft.Distinct.openTable {key : List String} (distinct : draft.Distinct)
    (opened : draft.openTable key = .ok changed) : changed.Distinct := by
  rw [Draft.openTable] at opened
  split at opened
  · cases opened
  · exact distinct.of_change (keepsDistinct_ok.changeAt true key) (fun _ => rfl) opened

theorem Draft.Distinct.openItem {key : List String} (distinct : draft.Distinct)
    (opened : draft.openItem key = .ok changed) : changed.Distinct := by
  rw [Draft.openItem] at opened
  split at opened
  · cases opened
  · exact distinct.of_change ((keepsDistinct_appendItem _).changeAt true _) (fun _ => rfl) opened

theorem Draft.Distinct.assign {key : List String} {value : Data} (distinct : draft.Distinct)
    (assigned : draft.assign key value = .ok changed) : changed.Distinct := by
  rw [Draft.assign] at assigned
  split at assigned
  · cases assigned
  · exact distinct.of_change ((keepsDistinct_addEntry _ value).changeAt true _) (fun _ => rfl)
      assigned

section

variable [Host]

theorem Draft.Distinct.statement {fuel : Nat} {input rest : List Char} (distinct : draft.Distinct)
    (carried : statement fuel draft input = .ok (changed, rest)) : changed.Distinct := by
  have settled : draft.settle.Distinct := distinct
  revert carried
  fun_cases Toml.statement fuel draft input with
  | case1 | case2 | case3 =>
      rintro ⟨⟩
      exact distinct
  | case4 | case5 | case7 | case8 | case9 | case11 => rintro ⟨⟩
  | case6 _ key opened final opened_eq =>
      rintro ⟨⟩
      exact settled.openItem opened_eq
  | case10 _ _ key opened final opened_eq =>
      rintro ⟨⟩
      exact settled.openTable opened_eq
  | case12 _ _ refused =>
      rw [refused]
      rintro ⟨⟩
  | case13 _ key found _ read =>
      rw [read]
      intro carried
      obtain ⟨assigned, assigned_eq, same⟩ := Except.exists_of_map_eq_ok carried
      cases same
      exact distinct.assign assigned_eq

theorem Draft.Distinct.lines {fuel count : Nat} {input : List Char} {found : Entries}
    (distinct : draft.Distinct) (read : lines fuel count draft input = .ok found) :
    (found.map Prod.fst).Nodup := by
  fun_induction Toml.lines fuel count draft input with
  | case1 =>
      cases read
      exact distinct
  | case2 | case3 | case4 | case7 => cases read
  | case5 _ _ _ _ _ carried =>
      cases read
      exact distinct.statement carried
  | case6 _ _ _ _ _ carried _ _ induction => exact induction (distinct.statement carried) read

theorem nodup_of_read {document : List Char} {found : Entries}
    (is_read : read document = .ok found) : (found.map Prod.fst).Nodup := by
  have start : Draft.Distinct {} := List.nodup_nil
  exact start.lines is_read

end

end Toml

/-- A table of data in a file names no key twice. -/
theorem Data.nodup_of_readContent [Host] {Refusal : Type} {format : Format} {malformed : Refusal}
    {content : ByteArray} {found : Entries}
    (read : readContent (Data.ofText format) malformed content = .ok (.table found)) :
    (found.map Prod.fst).Nodup := by
  revert read
  fun_cases readContent (Data.ofText format) malformed content with
  | case1 text =>
      intro read
      have is_read := Except.eq_ok_of_mapError_eq_ok read
      cases format with
      | json => exact Json.nodup_of_read is_read
      | toml =>
          obtain ⟨entries, entries_eq, same⟩ := Except.exists_of_map_eq_ok is_read
          cases same
          exact Toml.nodup_of_read entries_eq
  | case2 => rintro ⟨⟩

end PayGraph
