import PayGraph.Json.Reader
import PayGraph.Json.Writer
import PayGraph.Proofs.Number.Numeral

/-!
# Reading written scalars in JSON

A numeral is read in full where no character follows that could belong to it, and so are the words
for the truth values and for the values without digits.  Digits alone stand for a whole number; a
fraction or an exponent makes it a double-precision value.
-/

namespace PayGraph
namespace Json

/-- Text that may follow a value: it is empty or starts with a comma or a line break. -/
def Divided (rest : List Char) : Prop :=
  ∀ mark ∈ rest.head?, mark = ',' ∨ mark = '\n'

theorem divided_nil : Divided [] := by
  simp [Divided]

theorem divided_comma (rest : List Char) : Divided (',' :: rest) := by
  simp [Divided]

theorem divided_line (rest : List Char) : Divided ('\n' :: rest) := by
  simp [Divided]

theorem spanDigits_append {run rest : List Char} (run_digits : ∀ digit ∈ run, digit.isDigit)
    (stops : ∀ mark ∈ rest.head?, mark.isDigit = false) :
    Decimal.spanDigits (run ++ rest) = (run, rest) := by
  have ended : Decimal.spanDigits rest = ([], rest) := by
    cases rest with
    | nil => rfl
    | cons mark after => simp [Decimal.spanDigits, stops mark rfl]
  rw [Decimal.spanDigits, Prod.mk.injEq] at ended
  rw [Decimal.spanDigits, List.takeWhile_append_of_pos run_digits,
    List.dropWhile_append_of_pos run_digits, ended.1, ended.2, List.append_nil]

section

variable {rest : List Char} (divided : Divided rest)

include divided

theorem ends_of_divided : ∀ mark ∈ rest.head?,
    mark.isDigit = false ∧ mark ≠ '.' ∧ mark ≠ 'e' ∧ mark ≠ 'E' := by
  intro mark mark_first
  rcases divided mark mark_first with rfl | rfl <;> decide

theorem stops_exponentText (numeral : Numeral) :
    ∀ mark ∈ (numeral.exponentText ++ rest).head?, mark.isDigit = false := by
  rw [Numeral.exponentText]
  split
  · exact fun mark mark_first => (ends_of_divided divided mark mark_first).1
  · simp

theorem stops_fractionText (numeral : Numeral) :
    ∀ mark ∈ (numeral.fractionText ++ (numeral.exponentText ++ rest)).head?,
      mark.isDigit = false := by
  rw [Numeral.fractionText]
  split
  · exact stops_exponentText divided numeral
  · simp

theorem exponentPart_append (numeral : Numeral) :
    exponentPart (numeral.exponentText ++ rest) = (numeral.exponent?, rest) := by
  rw [Numeral.exponentText]
  cases numeral.exponent? with
  | none =>
      cases rest with
      | nil => rfl
      | cons mark after =>
          obtain ⟨-, -, not_small, not_large⟩ := ends_of_divided divided mark rfl
          simp [exponentPart, not_small, not_large]
  | some exponent =>
      obtain ⟨run, text_eq, run_ne, run_digits, value_eq⟩ :=
        Decimal.exists_exponentText_eq exponent
      have read := spanDigits_append run_digits
        fun mark mark_first => (ends_of_divided divided mark mark_first).1
      obtain ⟨first, others, rfl⟩ := List.exists_cons_of_ne_nil run_ne
      by_cases negative : exponent < 0
      · simp only [text_eq, if_pos negative, List.cons_append, exponentPart] at read ⊢
        simp [read, value_eq, abs_of_neg negative]
      · simp only [text_eq, if_neg negative, List.cons_append, exponentPart] at read ⊢
        simpa [read, value_eq] using negative

theorem fractionPart_append (numeral : Numeral) :
    fractionPart (numeral.fractionText ++ (numeral.exponentText ++ rest)) =
      (numeral.fraction, numeral.exponentText ++ rest) := by
  by_cases absent : numeral.fraction = []
  · rw [Numeral.fractionText, if_pos absent, absent, Numeral.exponentText]
    cases numeral.exponent? with
    | none =>
        cases rest with
        | nil => rfl
        | cons mark after =>
            obtain ⟨-, not_point, -⟩ := ends_of_divided divided mark rfl
            simp [fractionPart, not_point]
    | some exponent => rfl
  · have read := spanDigits_append numeral.fraction_digits (stops_exponentText divided numeral)
    obtain ⟨first, others, fraction_eq⟩ := List.exists_cons_of_ne_nil absent
    rw [Numeral.fractionText, if_neg absent]
    rw [fraction_eq] at read ⊢
    rw [List.cons_append, fractionPart, read]

/-- Whole digits are read in full, a lone zero included. -/
theorem wholePart_append (numeral : Numeral) :
    wholePart (numeral.text ++ rest) =
      (numeral.whole, numeral.fractionText ++ (numeral.exponentText ++ rest)) := by
  have text_eq : numeral.text ++ rest =
      numeral.whole ++ (numeral.fractionText ++ (numeral.exponentText ++ rest)) := by
    simp only [Numeral.text, List.append_assoc]
  rw [text_eq, wholePart.eq_def]
  split
  · rename_i leading
    obtain ⟨lone, after_eq⟩ := Numeral.whole_eq_of_leading leading
    rw [lone, after_eq]
  · exact spanDigits_append numeral.whole_digits (stops_fractionText divided numeral)

theorem numeral_append (negative : Bool) (written : Numeral) :
    numeral negative (written.text ++ rest) =
      (written.data negative).map fun data => (data, rest) := by
  obtain ⟨first, others, whole_eq⟩ := List.exists_cons_of_ne_nil written.whole_ne
  rw [numeral, wholePart_append divided]
  simp only [whole_eq, fractionPart_append divided, exponentPart_append divided, Numeral.data,
    Numeral.decimal]
  split
  · cases boundedWhole negative (first :: others) <;> rfl
  · rfl

/-- A numeral is read after its sign. -/
theorem scalar_append (negative : Bool) (written : Numeral) :
    scalar (Numeral.signed negative written.text ++ rest) =
      (written.data negative).map fun data => (data, rest) := by
  have read := numeral_append divided negative written
  obtain ⟨first, others, text_eq, first_digit⟩ := written.exists_first_digit
  have first_ne : first ≠ 'n' ∧ first ≠ 't' ∧ first ≠ 'f' ∧ first ≠ 'N' ∧ first ≠ 'I' ∧
      first ≠ '-' := by
    refine ⟨?_, ?_, ?_, ?_, ?_, ?_⟩ <;> rintro rfl <;> cases first_digit
  rw [← read, text_eq, List.cons_append]
  cases negative
  · rw [Numeral.signed, if_neg Bool.false_ne_true, List.cons_append, scalar.eq_def]
    simp [first_ne]
  · rw [Numeral.signed, if_pos rfl, List.cons_append, List.cons_append, scalar.eq_def]
    simp [first_ne]

end
end Json
end PayGraph
