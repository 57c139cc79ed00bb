/-!
# Association lists

Memos, inputs and adjacencies are lists of entries in which the first entry of a key counts.
-/

namespace PayGraph
namespace Association

variable {Key Value : Type}

/-- Replacing the value of a key keeps the keys. -/
theorem map_fst_replace [DecidableEq Key] (entries : List (Key × Value)) (key : Key)
    (value : Value) :
    (entries.map fun entry => if entry.1 = key then (key, value) else entry).map Prod.fst =
      entries.map Prod.fst := by
  rw [List.map_map]
  apply List.map_congr_left
  intro entry _
  rw [Function.comp]
  by_cases same : entry.1 = key
  · rw [if_pos same, same]
  · rw [if_neg same]

variable [BEq Key] [LawfulBEq Key]

theorem mem_keys_iff (entries : List (Key × Value)) (key : Key) :
    key ∈ entries.map Prod.fst ↔ ∃ value, entries.lookup key = some value := by
  rw [← Option.isSome_iff_exists, List.lookup_isSome_iff, List.mem_map]
  constructor
  · rintro ⟨entry, member, rfl⟩
    exact ⟨entry, member, beq_self_eq_true entry.1⟩
  · rintro ⟨entry, member, same⟩
    exact ⟨entry, member, (beq_iff_eq.mp same).symm⟩

theorem lookup_eq_none {entries : List (Key × Value)} {key : Key}
    (unlisted : key ∉ entries.map Prod.fst) : entries.lookup key = none := by
  rw [mem_keys_iff, not_exists] at unlisted
  exact Option.eq_none_iff_forall_ne_some.mpr unlisted

theorem lookup_cons_eq_none_iff {entries : List (Key × Value)} {key other : Key} {value : Value} :
    ((key, value) :: entries).lookup other = none ↔ other ≠ key ∧ entries.lookup other = none := by
  cases same : other == key with
  | true =>
      rw [List.lookup_cons, same]
      exact iff_of_false nofun fun absent => absent.1 (beq_iff_eq.mp same)
  | false =>
      rw [List.lookup_cons, same, and_iff_right (beq_eq_false_iff_ne.mp same)]

theorem mem_of_lookup {entries : List (Key × Value)} {key : Key} {value : Value}
    (found : entries.lookup key = some value) : (key, value) ∈ entries := by
  obtain ⟨before, after, listed, _⟩ := List.lookup_eq_some_iff.mp found
  rw [listed]
  exact List.mem_append_right before List.mem_cons_self

/-- Changing the values of a list changes what is found. -/
theorem lookup_map_values (change : Key → Value → Value) (entries : List (Key × Value))
    (key : Key) :
    (entries.map fun entry => (entry.1, change entry.1 entry.2)).lookup key =
      (entries.lookup key).map (change key) := by
  induction entries with
  | nil => rfl
  | cons entry entries induction =>
      rw [List.map_cons, List.lookup_cons, List.lookup_cons]
      by_cases same : key = entry.1
      · simp [same]
      · have differs : (key == entry.1) = false := beq_eq_false_iff_ne.mpr same
        rw [differs]
        exact induction

section

variable [DecidableEq Key] {entries : List (Key × Value)} {key : Key}

/-- Replacing the value of a listed key changes what is found under it alone. -/
theorem lookup_replace (listed : key ∈ entries.map Prod.fst) (value : Value) (other : Key) :
    (entries.map fun entry => if entry.1 = key then (key, value) else entry).lookup other =
      if other = key then some value else entries.lookup other := by
  have in_place : (entries.map fun entry => if entry.1 = key then (key, value) else entry) =
      entries.map fun entry => (entry.1, if entry.1 = key then value else entry.2) := by
    apply List.map_congr_left
    intro entry _
    by_cases same : entry.1 = key
    · simp [same]
    · simp [same]
  rw [in_place, lookup_map_values fun name old => if name = key then value else old]
  by_cases same : other = key
  · obtain ⟨old, found⟩ := (mem_keys_iff entries key).mp listed
    rw [if_pos same, same, found, Option.map_some, if_pos rfl]
  · simp only [if_neg same, Option.map_id']

/-- A new key at the end changes what is found under it alone. -/
theorem lookup_append_single (unlisted : key ∉ entries.map Prod.fst) (value : Value)
    (other : Key) :
    (entries ++ [(key, value)]).lookup other =
      if other = key then some value else entries.lookup other := by
  rw [List.lookup_append, List.lookup_cons, List.lookup_nil]
  by_cases same : other = key
  · rw [if_pos same, same, lookup_eq_none unlisted, beq_self_eq_true, Option.none_or]
  · rw [if_neg same, beq_eq_false_iff_ne.mpr same, Option.or_none]

end

end Association
end PayGraph
