import PayGraph.Proofs.Number.Numeral

/-!
# Characters of numbers

A number is shown in digits, signs, a point, the mark of an exponent and the letters of the words
for what has no digits.  None of these is a blank, starts markup or names an emoji.
-/

namespace PayGraph

/-- A character that numbers are shown with. -/
def IsNumeric (character : Char) : Prop :=
  character.isDigit = true ∨ character ∈ ['-', '+', '.', 'e', 'i', 'n', 'f', 'a']

instance : DecidablePred IsNumeric :=
  fun _ => inferInstanceAs (Decidable (_ ∨ _))

theorem IsNumeric.visible {character : Char} (numeric : IsNumeric character) :
    0x21 ≤ character.toNat ∧ character.toNat ≤ 0x7E := by
  rcases numeric with digit | listed
  · rw [Char.isDigit_iff_toNat] at digit
    simp only [Char.reduceToNat] at digit
    omega
  · simp only [List.mem_cons, List.not_mem_nil, or_false] at listed
    rcases listed with rfl | rfl | rfl | rfl | rfl | rfl | rfl | rfl <;> decide

namespace Numeral

theorem isNumeric_of_digits {run : List Char} (digits : ∀ digit ∈ run, digit.isDigit) :
    ∀ character ∈ run, IsNumeric character :=
  fun character member => Or.inl (digits character member)

theorem isNumeric_text (numeral : Numeral) : ∀ character ∈ numeral.text, IsNumeric character := by
  have fraction_numeric : ∀ character ∈ numeral.fractionText, IsNumeric character := by
    rw [fractionText]
    split
    · exact List.forall_mem_nil _
    · exact List.forall_mem_cons.mpr
        ⟨Or.inr (by decide), isNumeric_of_digits numeral.fraction_digits⟩
  have exponent_numeric : ∀ character ∈ numeral.exponentText, IsNumeric character := by
    rw [exponentText]
    split
    · exact List.forall_mem_nil _
    · rename_i exponent _
      obtain ⟨run, text_eq, -, run_digits, -⟩ := Decimal.exists_exponentText_eq exponent
      have sign_numeric : IsNumeric (if exponent < 0 then '-' else '+') := by
        split <;> exact Or.inr (by decide)
      rw [text_eq]
      exact List.forall_mem_cons.mpr ⟨Or.inr (by decide),
        List.forall_mem_cons.mpr ⟨sign_numeric, isNumeric_of_digits run_digits⟩⟩
  rw [text, List.forall_mem_append, List.forall_mem_append]
  exact ⟨⟨isNumeric_of_digits numeral.whole_digits, fraction_numeric⟩, exponent_numeric⟩

theorem text_ne_nil (numeral : Numeral) : numeral.text ≠ [] := by
  obtain ⟨first, others, text_eq, -⟩ := numeral.exists_first_digit
  rw [text_eq]
  exact List.cons_ne_nil _ _

end Numeral

/-- A text such as numbers have. -/
structure IsNumericText (characters : List Char) : Prop where
  nonempty : characters ≠ []
  numeric : ∀ character ∈ characters, IsNumeric character

instance : DecidablePred IsNumericText := fun characters =>
  decidable_of_iff (characters ≠ [] ∧ characters.all (fun character => IsNumeric character))
    ⟨fun ⟨nonempty, numeric⟩ => ⟨nonempty, by simpa using numeric⟩,
      fun ⟨nonempty, numeric⟩ => ⟨nonempty, by simpa using numeric⟩⟩

theorem IsNumericText.not_mem {characters : List Char} (numeric : IsNumericText characters)
    {mark : Char} (other : ¬IsNumeric mark) : mark ∉ characters :=
  fun member => other (numeric.numeric mark member)

theorem isNumericText_signed (negative : Bool) {written : List Char}
    (unsigned : IsNumericText written) : IsNumericText (Numeral.signed negative written) := by
  cases negative with
  | false => exact unsigned
  | true =>
      exact ⟨List.cons_ne_nil _ _, List.forall_mem_cons.mpr ⟨Or.inr (by decide), unsigned.numeric⟩⟩

theorem Numeral.isNumericText (numeral : Numeral) : IsNumericText numeral.text :=
  ⟨numeral.text_ne_nil, numeral.isNumeric_text⟩

theorem isNumericText_wholeText (value : Int) : IsNumericText (wholeText value) := by
  rw [Numeral.wholeText_eq]
  exact isNumericText_signed _ (Numeral.isNumericText _)

/-- A whole number that is not negative has a limited number of digits if and only if it is less
than a power of ten. -/
theorem length_wholeText_le_iff {value : Int} {limit : Nat} (nonneg : 0 ≤ value)
    (limit_pos : 0 < limit) : (wholeText value).length ≤ limit ↔ value.natAbs < 10 ^ limit := by
  rw [wholeText, if_neg (Int.not_lt.mpr nonneg), Decimal.digits]
  exact Nat.length_toDigits_le_iff (by decide) limit_pos

theorem Binary64.isNumericText_text (value : Binary64) : IsNumericText (value.text .short) := by
  cases value with
  | nan => decide
  | infinite negative => exact isNumericText_signed negative (by decide)
  | finite negative rank =>
      obtain ⟨numeral, text_eq, -⟩ := Numeral.exists_text_shortest rank
      have written := isNumericText_signed negative numeral.isNumericText
      rwa [text_eq] at written

/-- Every number that has a text is shown in the characters of numbers. -/
theorem Number.isNumericText_display {number : Number} {text : String}
    (shown : number.display = .ok text) : IsNumericText text.toList := by
  cases number with
  | boolean value =>
      cases shown
      cases value <;> decide
  | integer value =>
      rw [display, boundedText] at shown
      split at shown
      · cases shown
        rw [String.toList_ofList]
        exact isNumericText_wholeText value
      · cases shown
  | real value =>
      rw [display] at shown
      split at shown
      · cases shown
        rw [String.toList_ofList]
        exact isNumericText_wholeText _
      · cases shown
        rw [String.toList_ofList]
        exact value.isNumericText_text

end PayGraph
