import PayGraph.Proofs.Arithmetic
import PayGraph.Proofs.Ledger
import PayGraph.Proofs.Outcomes

/-!
# Numbers that can be written

Only a whole number with too many digits has no text.  Every value that an evaluation has finished
stands written in its line, so an operation cannot stop at its operands: the first number that
cannot be written is one that a metric or a constant holds or that an operation computes.
-/

namespace PayGraph

namespace Number

/-- The number has a text. -/
def IsWritten (number : Number) : Prop :=
  ∃ text, number.display = .ok text

theorem isWritten_boolean (value : Bool) : IsWritten (.boolean value) :=
  ⟨_, rfl⟩

theorem isWritten_real (value : Binary64) : IsWritten (.real value) := by
  cases whole : value.toInt? with
  | some integer => exact ⟨_, by rw [display, whole]⟩
  | none => exact ⟨_, by rw [display, whole]⟩

theorem isWritten_integer_iff {value : Int} :
    IsWritten (.integer value) ↔ value.natAbs < Nat.pow 10 digitLimit := by
  constructor
  · rintro ⟨text, shown⟩
    simp only [display, boundedText] at shown
    split at shown
    · assumption
    · cases shown
  · intro few
    refine ⟨String.ofList (wholeText value), ?_⟩
    simp only [display, boundedText, if_pos few]
    rfl

theorem one_lt_longest : 1 < Nat.pow 10 digitLimit := by
  rw [Nat.pow_eq]
  exact Nat.one_lt_pow (by decide) (by decide)

theorem isWritten_of_natAbs_lt {value : Int} {digits : Nat}
    (few : value.natAbs < Nat.pow 10 digits) (allowed : digits ≤ digitLimit) :
    IsWritten (.integer value) := by
  rw [isWritten_integer_iff, Nat.pow_eq]
  generalize digitLimit = limit at allowed
  exact Nat.lt_of_lt_of_le few (Nat.pow_le_pow_right (by decide) allowed)

theorem Tame.isWritten {number : Number} (tame : number.Tame) : number.IsWritten := by
  cases tame with
  | real value => exact isWritten_real value
  | zero => exact isWritten_integer_iff.mpr (Nat.lt_trans Nat.zero_lt_one one_lt_longest)

/-- A whole number that is written has few digits. -/
theorem IsWritten.natAbs_lt {number : Number} (written : number.IsWritten) {whole : Int}
    (held : number.whole? = some whole) : whole.natAbs < Nat.pow 10 digitLimit := by
  cases number with
  | boolean value =>
      cases held
      refine Nat.lt_of_le_of_lt ?_ one_lt_longest
      cases value <;> decide
  | integer value =>
      cases held
      exact isWritten_integer_iff.mp written
  | real value => cases held

/-- Only a whole number with too many digits has no text. -/
theorem exists_long_of_display_error {number : Number} {overflow : DigitOverflow}
    (unwritten : number.display = .error overflow) :
    overflow = .writing ∧
      ∃ value, number = .integer value ∧ Nat.pow 10 digitLimit ≤ value.natAbs := by
  have lacking : ¬number.IsWritten := by
    rintro ⟨text, written⟩
    rw [unwritten] at written
    cases written
  cases number with
  | boolean value => exact absurd (isWritten_boolean value) lacking
  | real value => exact absurd (isWritten_real value) lacking
  | integer value =>
      rw [isWritten_integer_iff, Nat.not_lt] at lacking
      rw [display, boundedText, if_neg (Nat.not_lt.mpr lacking)] at unwritten
      cases unwritten
      exact ⟨rfl, value, rfl, lacking⟩

end Number

theorem Concludes.isWritten {inputs : Inputs} {id : String} {values : Reading Number}
    {value : Number} {step : Step} (concludes : Concludes inputs id values value step) :
    value.IsWritten := by
  cases concludes with
  | metric shown | literal shown | fold _ _ shown | passage shown => exact ⟨_, shown⟩
  | comparison _ _ _ _ encoded_eq =>
      rw [Number.isWritten_integer_iff, encoded_eq]
      refine Nat.lt_of_le_of_lt ?_ Number.one_lt_longest
      split <;> decide

theorem Concludes.isWritten_line {inputs : Inputs} {id : String} {values : Reading Number}
    {value : Number} {step : Step} (concludes : Concludes inputs id values value step) :
    step.value.IsWritten := by
  cases concludes with
  | metric shown | literal shown | fold _ _ shown | passage shown => exact ⟨_, shown⟩
  | comparison => exact Number.isWritten_boolean _

/-- Every line holds a value that is written. -/
theorem Ledger.isWritten_lines {formula : Formula} {inputs : Inputs}
    {memo : List (String × Number)} {steps : List Step}
    (ledger : Ledger formula inputs memo steps) :
    ∀ step ∈ steps, step.value.IsWritten := by
  induction ledger with
  | nil => exact fun step member => absurd member List.not_mem_nil
  | snoc _ _ _ _ concluded induction =>
      intro step member
      rcases List.mem_append.mp member with member | member
      · exact induction step member
      · rw [List.mem_singleton.mp member]
        exact (Reading.concludes_of_conclude concluded).isWritten_line

/-- Every finished value is written. -/
theorem Ledger.isWritten {formula : Formula} {inputs : Inputs} {memo : List (String × Number)}
    {steps : List Step} (ledger : Ledger formula inputs memo steps) {id : String} {value : Number}
    (found : memo.lookup id = some value) : value.IsWritten := by
  induction ledger with
  | nil => cases found
  | @snoc memo steps newest reading newest_value step _ _ _ _ concluded induction =>
      rw [List.lookup_cons] at found
      split at found
      · cases found
        exact (Reading.concludes_of_conclude concluded).isWritten
      · exact induction found

namespace Reading

variable {inputs : Inputs} {id : String}

theorem listed_of_isWritten {values : List Number} (written : ∀ value ∈ values, value.IsWritten) :
    ∃ text, listed values = .ok text := by
  obtain ⟨texts, shown⟩ := Except.exists_mapM_eq_ok written
  exact ⟨", ".intercalate texts, by rw [listed, shown]; rfl⟩

theorem display_error_of_written {value : Number} {describe : String → String}
    {overflow : DigitOverflow}
    (concluded : written id value describe = .error (.unwritable overflow)) :
    value.display = .error overflow := by
  rw [written] at concluded
  split at concluded
  · cases concluded
  · rename_i shown
    cases concluded
    exact shown

/-- Where the operands are written, a node that concludes a number without a text holds it as a
metric or a constant or computes it by an operation. -/
theorem exists_source_of_conclude_unwritable {values : Reading Number} {overflow : DigitOverflow}
    (concluded : values.conclude inputs id = .error (.unwritable overflow))
    (written : ∀ operand ∈ values.operands, operand.IsWritten) :
    ∃ value, value.display = .error overflow ∧
      ((∃ name, values = .metric name ∧ value = inputs.valueOf name) ∨ values = .literal value ∨
        ∃ operator operands, values = .fold operator operands ∧
          operator.apply id operands = .ok value) := by
  cases values with
  | metric name =>
      exact ⟨_, display_error_of_written concluded, Or.inl ⟨name, rfl, rfl⟩⟩
  | literal number => exact ⟨_, display_error_of_written concluded, Or.inr (Or.inl rfl)⟩
  | fold operator operands =>
      have operands_written : ∀ operand ∈ operands, operand.IsWritten := written
      obtain ⟨texts, listed_eq⟩ := listed_of_isWritten operands_written
      simp only [conclude] at concluded
      split at concluded
      · cases concluded
      · rename_i value applied
        rw [listed_eq] at concluded
        exact ⟨value, display_error_of_written concluded,
          Or.inr (Or.inr ⟨operator, operands, rfl, applied⟩)⟩
  | comparison condition left right =>
      obtain ⟨leftText, left_shown⟩ := written left List.mem_cons_self
      obtain ⟨rightText, right_shown⟩ := written right (List.mem_cons_of_mem _ List.mem_cons_self)
      simp only [conclude, left_shown, right_shown] at concluded
      split at concluded <;> cases concluded
  | passage number =>
      obtain ⟨text, shown⟩ := written number List.mem_cons_self
      have unwritten := display_error_of_written concluded
      rw [shown] at unwritten
      cases unwritten

end Reading
end PayGraph
