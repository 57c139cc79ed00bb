import PayGraph.Proofs.DistinctKeys
import PayGraph.Proofs.Loaded
import PayGraph.Proofs.Relevance

/-!
# Inputs over inputs

The metrics of a file have distinct names.  Where they override others each of them counts with its
value in the file, and any other as before; this fixes what a formula evaluates to.
-/

namespace PayGraph

namespace Checked

theorem keys_of_eachEntry {Value : Type} {check : Data → Checked Value} {entries : Entries}
    {found : List (String × Value)} (checked : eachEntry check entries = .ok found) :
    found.map Prod.fst = entries.map Prod.fst := by
  induction entries generalizing found with
  | nil =>
      cases checked
      rfl
  | cons entry entries induction =>
      obtain ⟨key, item⟩ := entry
      rw [eachEntry] at checked
      cases first : (check item).under (.key key) with
      | error faults =>
          rw [first] at checked
          cases rest : eachEntry check entries <;> rw [rest] at checked <;> cases checked
      | ok value =>
          rw [first] at checked
          cases rest : eachEntry check entries with
          | error faults =>
              rw [rest] at checked
              cases checked
          | ok others =>
              rw [rest] at checked
              cases checked
              simp [induction rest]

end Checked

namespace Inputs

theorem exists_table_of_ofData {data : Data} {inputs : Inputs} (loaded : ofData data = .ok inputs) :
    ∃ entries, data = .table entries ∧ inputs.map Prod.fst = entries.map Prod.fst := by
  cases data with
  | table entries =>
      obtain ⟨values, checked, rfl⟩ := Except.exists_of_map_eq_ok loaded
      refine ⟨entries, rfl, ?_⟩
      rw [← Checked.keys_of_eachEntry checked, List.map_map]
      rfl
  | null | boolean | whole | real | text | moment | list => cases loaded

/-- Metrics that are loaded come from the data of their file. -/
theorem exists_data_of_ofBytes [Host] {path : Path} {content : ByteArray} {inputs : Inputs}
    (loaded : ofBytes path content = .ok inputs) :
    ∃ data,
      readContent (Data.ofText (.ofPath path)) (LoadError.notInputs path) content = .ok data ∧
        ofData data = .ok inputs := by
  rw [ofBytes] at loaded
  cases read : readContent (Data.ofText (.ofPath path)) (LoadError.notInputs path) content with
  | error fault =>
      rw [read] at loaded
      cases loaded
  | ok data =>
      rw [read] at loaded
      exact ⟨data, rfl, Except.eq_ok_of_mapError_eq_ok loaded⟩

/-- Loaded metrics have distinct names. -/
theorem nodup_of_ofBytes [Host] {path : Path} {content : ByteArray} {inputs : Inputs}
    (loaded : ofBytes path content = .ok inputs) : (inputs.map Prod.fst).Nodup := by
  obtain ⟨data, read, decoded⟩ := exists_data_of_ofBytes loaded
  obtain ⟨entries, rfl, keys_eq⟩ := exists_table_of_ofData decoded
  rw [keys_eq]
  exact Data.nodup_of_readContent read

/-- A metric of the changes has its value there, and any other its old one. -/
theorem lookup_override {changes : Inputs} (distinct : (changes.map Prod.fst).Nodup)
    (inputs : Inputs) (name : String) :
    (inputs.override changes).lookup name = (changes.lookup name).or (inputs.lookup name) := by
  induction changes generalizing inputs with
  | nil => rfl
  | cons change changes induction =>
      obtain ⟨unrepeated, distinct⟩ := List.nodup_cons.mp distinct
      have rest := induction distinct (inputs.insert change.1 change.2)
      rw [override, List.foldl_cons, ← override, rest, lookup_insert, List.lookup_cons]
      by_cases same : name = change.1
      · have absent : changes.lookup name = none :=
          Association.lookup_eq_none (same ▸ unrepeated)
        rw [if_pos same, beq_iff_eq.mpr same, absent, Option.none_or, Option.some_or]
      · rw [if_neg same, beq_eq_false_iff_ne.mpr same]

/-- What holds of the entries of both maps holds of every entry after one overrides the other. -/
theorem forall_mem_override {Holds : String × Number → Prop} {inputs changes : Inputs}
    (held : ∀ entry ∈ inputs, Holds entry) (changes_held : ∀ entry ∈ changes, Holds entry) :
    ∀ entry ∈ inputs.override changes, Holds entry := by
  induction changes generalizing inputs with
  | nil => exact held
  | cons change changes induction =>
      obtain ⟨change_held, rest_held⟩ := List.forall_mem_cons.mp changes_held
      have inserted : ∀ entry ∈ inputs.insert change.1 change.2, Holds entry := by
        intro entry entry_mem
        rw [insert] at entry_mem
        split at entry_mem
        · obtain ⟨old, old_mem, rfl⟩ := List.mem_map.mp entry_mem
          split
          · exact change_held
          · exact held old old_mem
        · rcases List.mem_append.mp entry_mem with old_mem | new_mem
          · exact held entry old_mem
          · exact List.mem_singleton.mp new_mem ▸ change_held
      exact induction inserted rest_held

end Inputs

/-- A formula evaluates alike on every map in which the changes have priority over the others. -/
theorem Formula.evaluate_override (formula : Formula) {inputs base changes : Inputs}
    (distinct : (changes.map Prod.fst).Nodup)
    (overridden : ∀ name, inputs.lookup name = (changes.lookup name).or (base.lookup name)) :
    formula.evaluate (base.override changes) = formula.evaluate inputs := by
  apply evaluate_congr
  intro name _
  rw [Inputs.valueOf, Inputs.valueOf, Inputs.lookup_override distinct, overridden]

end PayGraph
