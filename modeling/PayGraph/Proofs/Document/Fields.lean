import Mathlib
import PayGraph.Document

/-!
# Fields of documents

A document passes its checks if every field has its place and its kind; then it holds what stands
there.  Otherwise the checks list what is wrong with any of its fields, and nothing else.
-/

namespace PayGraph

namespace Checked

variable {Input Value : Type}

/-- The faults that a check has found. -/
def faults : Checked Value → List FieldFault
  | .ok _ => []
  | .error found => found

theorem faults_fault (kind : FaultKind) :
    (fault kind : Checked Value).faults = [⟨[], kind⟩] :=
  rfl

theorem faults_eq_of_error {checked : Checked Value} {found : List FieldFault}
    (refused : checked = .error found) : checked.faults = found := by
  rw [refused]
  rfl

theorem apply_eq_ok_iff {function : Checked (Input → Value)} {argument : Checked Input}
    {result : Value} : function.apply argument = .ok result ↔
      ∃ make value, function = .ok make ∧ argument = .ok value ∧ make value = result := by
  cases function <;> cases argument <;> simp [apply]

theorem faults_apply (function : Checked (Input → Value)) (argument : Checked Input) :
    (function.apply argument).faults = function.faults ++ argument.faults := by
  cases function <;> cases argument <;> simp [apply, faults]

theorem under_eq_ok_iff {locus : Locus} {checked : Checked Value} {value : Value} :
    checked.under locus = .ok value ↔ checked = .ok value := by
  cases checked <;> simp [under, Except.mapError]

theorem faults_under (locus : Locus) (checked : Checked Value) :
    (checked.under locus).faults = checked.faults.map (FieldFault.under locus) := by
  cases checked <;> rfl

/-- A check takes a value or finds a fault. -/
def Settled (checked : Checked Value) : Prop :=
  (∃ found, checked = .ok found) ∨ ∃ fault, fault ∈ checked.faults

theorem Settled.value (found : Value) : Settled (value found) :=
  Or.inl ⟨found, rfl⟩

theorem Settled.fault (kind : FaultKind) : Settled (fault kind : Checked Value) :=
  Or.inr ⟨⟨[], kind⟩, List.mem_cons_self⟩

theorem Settled.apply {function : Checked (Input → Value)} {argument : Checked Input}
    (function_settled : Settled function) (argument_settled : Settled argument) :
    Settled (function.apply argument) := by
  rw [Settled, faults_apply]
  rcases function_settled with ⟨make, rfl⟩ | ⟨fault, found⟩
  · rcases argument_settled with ⟨input, rfl⟩ | ⟨fault, found⟩
    · exact Or.inl ⟨make input, rfl⟩
    · exact Or.inr ⟨fault, List.mem_append_right _ found⟩
  · exact Or.inr ⟨fault, List.mem_append_left _ found⟩

theorem Settled.under {checked : Checked Value} (settled : Settled checked) (locus : Locus) :
    Settled (checked.under locus) := by
  rw [Settled, faults_under]
  rcases settled with ⟨value, rfl⟩ | ⟨fault, found⟩
  · exact Or.inl ⟨value, rfl⟩
  · exact Or.inr ⟨fault.under locus, List.mem_map_of_mem found⟩

section Fields

variable {key : String} {check : Data → Checked Value} {entries : Entries} {value default : Value}
  {fault : FieldFault}

theorem required_eq_ok_iff : required key check entries = .ok value ↔
    ∃ item, entries.lookup key = some item ∧ check item = .ok value := by
  rw [required]
  cases entries.lookup key with
  | none => simp [Checked.fault, under, Except.mapError]
  | some item => simp [under_eq_ok_iff]

theorem optional_eq_ok_iff : optional key default check entries = .ok value ↔
    (∃ item, entries.lookup key = some item ∧ check item = .ok value) ∨
      entries.lookup key = none ∧ value = default := by
  rw [optional]
  cases entries.lookup key with
  | none => simp [eq_comm]
  | some item => simp [under_eq_ok_iff]

/-- A field is at fault where its value is. -/
def FaultWithin (entries : Entries) (key : String) (check : Data → Checked Value)
    (fault : FieldFault) : Prop :=
  ∃ item, entries.lookup key = some item ∧ ∃ inner ∈ (check item).faults,
    inner.under (.key key) = fault

theorem mem_faults_optional : fault ∈ (optional key default check entries).faults ↔
    FaultWithin entries key check fault := by
  rw [optional, FaultWithin]
  cases entries.lookup key with
  | none => simp [faults]
  | some item => simp [faults_under]

theorem mem_faults_required : fault ∈ (required key check entries).faults ↔
    entries.lookup key = none ∧ fault = ⟨[.key key], .missing⟩ ∨
      FaultWithin entries key check fault := by
  rw [required, FaultWithin]
  cases entries.lookup key with
  | none => simp [faults, Checked.fault, under, Except.mapError, FieldFault.under]
  | some item => simp [faults_under]

section Settled

variable (settled : ∀ item, Settled (check item))
include settled

theorem Settled.required (key : String) (entries : Entries) :
    Settled (required key check entries) := by
  rw [Checked.required]
  split
  · exact (settled _).under _
  · exact (Settled.fault _).under _

theorem Settled.optional (key : String) (default : Value) (entries : Entries) :
    Settled (optional key default check entries) := by
  rw [Checked.optional]
  split
  · exact (settled _).under _
  · exact .value default

theorem Settled.each (start : Nat) (items : List Data) : Settled (each check start items) := by
  induction items generalizing start with
  | nil => exact .value []
  | cons item rest induction =>
      exact ((Settled.value _).apply ((settled item).under _)).apply (induction (start + 1))

end Settled

end Fields

section Lists

variable {check : Data → Checked Value} {start : Nat} {items : List Data}

theorem each_eq_ok_iff {values : List Value} : each check start items = .ok values ↔
    List.Forall₂ (fun item value => check item = .ok value) items values := by
  induction items generalizing start values with
  | nil => simp [each, eq_comm]
  | cons item rest induction =>
      simp only [each, apply_eq_ok_iff, Checked.value, under_eq_ok_iff, induction]
      constructor
      · rintro ⟨_, others, ⟨_, first, ⟨⟩, first_ok, rfl⟩, rest_ok, rfl⟩
        exact .cons first_ok rest_ok
      · rintro (_ | ⟨first_ok, rest_ok⟩)
        exact ⟨_, _, ⟨_, _, rfl, first_ok, rfl⟩, rest_ok, rfl⟩

theorem mem_faults_each {fault : FieldFault} : fault ∈ (each check start items).faults ↔
    ∃ index item, items[index]? = some item ∧ ∃ inner ∈ (check item).faults,
      inner.under (.position (start + index)) = fault := by
  induction items generalizing start with
  | nil => simp [each, faults]
  | cons item rest induction =>
      rw [each, faults_apply, faults_apply, faults_under, List.mem_append, induction]
      have none_yet :
          (value List.cons : Checked (Value → List Value → List Value)).faults = [] := rfl
      rw [none_yet, List.nil_append, List.mem_map]
      constructor
      · rintro (⟨inner, inner_mem, rfl⟩ | ⟨index, other, other_at, inner, inner_mem, rfl⟩)
        · exact ⟨0, item, rfl, inner, inner_mem, rfl⟩
        · refine ⟨index + 1, other, other_at, inner, inner_mem, ?_⟩
          rw [Nat.add_right_comm, ← Nat.add_assoc]
      · rintro ⟨index | index, other, other_at, inner, inner_mem, rfl⟩
        · cases other_at
          exact Or.inl ⟨inner, inner_mem, rfl⟩
        · refine Or.inr ⟨index, other, other_at, inner, inner_mem, ?_⟩
          rw [Nat.add_right_comm, ← Nat.add_assoc]

end Lists

end Checked
end PayGraph
