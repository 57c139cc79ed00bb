import Mathlib
import PayGraph.Proofs.Json.Scalar
import PayGraph.Proofs.Number.Combination

/-!
# Numbers that are shown alike

However a number is held, it comes to a whole number, to an infinity, or to a double-precision value
between two whole numbers.  Each of these has a size and a text of its own, so numbers are shown
alike if and only if they are equal.
-/

namespace PayGraph

namespace Numeral

/-- A numeral is told by its text: its parts are what is read from there. -/
theorem text_injective {left right : Numeral} (same : left.text = right.text) : left = right := by
  have whole_eq := Json.wholePart_append Json.divided_nil left
  rw [same, Json.wholePart_append Json.divided_nil right, Prod.mk.injEq] at whole_eq
  obtain ⟨wholes, rests⟩ := whole_eq
  have fraction_eq := Json.fractionPart_append Json.divided_nil left
  rw [← rests, Json.fractionPart_append Json.divided_nil right, Prod.mk.injEq] at fraction_eq
  obtain ⟨fractions, rests⟩ := fraction_eq
  have exponent_eq := Json.exponentPart_append Json.divided_nil left
  rw [← rests, Json.exponentPart_append Json.divided_nil right, Prod.mk.injEq] at exponent_eq
  cases left
  cases right
  cases wholes
  cases fractions
  cases exponent_eq.1
  rfl

theorem signed_injective {left right : Bool} {leftText rightText : List Char}
    (left_unsigned : leftText.head? ≠ some '-') (right_unsigned : rightText.head? ≠ some '-')
    (same : signed left leftText = signed right rightText) :
    left = right ∧ leftText = rightText := by
  cases left <;> cases right
  · exact ⟨rfl, same⟩
  · exact absurd (congrArg List.head? same) left_unsigned
  · exact absurd (congrArg List.head? same).symm right_unsigned
  · exact ⟨rfl, List.tail_eq_of_cons_eq same⟩

theorem text_unsigned (numeral : Numeral) : numeral.text.head? ≠ some '-' := by
  obtain ⟨first, others, text_eq, first_digit⟩ := numeral.exists_first_digit
  rw [text_eq, List.head?_cons]
  rintro ⟨⟩
  cases first_digit

end Numeral

namespace Binary64

theorem unitsPerOne_ne_zero : (unitsPerOne : Int) ≠ 0 :=
  Int.natCast_ne_zero.mpr unitsPerOne_pos.ne'

theorem units_injective {left right : Nat} (same : units left = units right) : left = right := by
  rw [← nearestRank_units left, same, nearestRank_units]

/-- A value is the whole number with as many units. -/
theorem toInt?_finite_eq_some_iff (negative : Bool) (rank : Fin finiteRanks) (whole : Int) :
    (finite negative rank).toInt? = some whole ↔
      signedUnits negative rank = whole * unitsPerOne := by
  have unit_pos := unitsPerOne_pos
  simp only [toInt?, signedUnits]
  generalize units rank = magnitude
  -- a symbol for the power of two, lest it be computed
  generalize unitsPerOne = unit at unit_pos
  constructor
  · intro held
    split at held
    · rename_i divides
      have exact := Nat.div_mul_cancel (Nat.dvd_of_mod_eq_zero divides)
      cases held
      split
      · rw [Int.neg_mul, ← Int.natCast_mul, exact]
      · rw [← Int.natCast_mul, exact]
    · cases held
  · intro held
    have magnitude_eq : magnitude = whole.natAbs * unit := by
      rw [← Int.natAbs_natCast unit, ← Int.natAbs_mul, ← held]
      split
      · rw [Int.natAbs_neg, Int.natAbs_natCast]
      · rw [Int.natAbs_natCast]
    have unit_ne : (unit : Int) ≠ 0 := Int.natCast_ne_zero.mpr unit_pos.ne'
    rw [magnitude_eq, Int.natCast_mul] at held
    rw [magnitude_eq, Nat.mul_mod_left, if_pos rfl, Nat.mul_div_cancel _ unit_pos]
    congr 1
    split at held
    · rename_i is_negative
      rw [if_pos is_negative]
      rw [← Int.neg_mul] at held
      exact Int.eq_of_mul_eq_mul_right unit_ne held
    · rename_i is_positive
      rw [if_neg is_positive]
      exact Int.eq_of_mul_eq_mul_right unit_ne held

end Binary64

/-- What a number comes to, whichever kind holds it. -/
inductive Quantity where
  | whole (value : Int)
  | fractional (negative : Bool) (rank : Fin finiteRanks)
    (not_whole : (Binary64.finite negative rank).toInt? = none)
  | infinite (negative : Bool)

namespace Quantity

/-- Exact size of a quantity. -/
def extent : Quantity → Extent
  | .whole value => .at (value * Binary64.unitsPerOne)
  | .fractional negative rank _ => .at (Binary64.signedUnits negative rank)
  | .infinite negative => if negative then .below else .above

/-- Text of a quantity. -/
def text : Quantity → List Char
  | .whole value => wholeText value
  | .fractional negative rank _ => Numeral.signed negative (Decimal.shortest rank).text
  | .infinite negative => Numeral.signed negative ['i', 'n', 'f']

theorem whole_extent_ne_fractional {value : Int} {negative : Bool} {rank : Fin finiteRanks}
    {not_whole : (Binary64.finite negative rank).toInt? = none} :
    (whole value).extent ≠ (fractional negative rank not_whole).extent := by
  rw [extent, extent, ne_eq, Extent.at.injEq]
  intro same
  rw [(Binary64.toInt?_finite_eq_some_iff negative rank value).mpr same.symm] at not_whole
  cases not_whole

/-- A quantity is told by its size. -/
theorem extent_injective {left right : Quantity} (same : left.extent = right.extent) :
    left = right := by
  cases left with
  | whole value =>
      cases right with
      | whole other =>
          rw [extent, extent, Extent.at.injEq] at same
          exact congrArg whole (Int.eq_of_mul_eq_mul_right Binary64.unitsPerOne_ne_zero same)
      | fractional => exact absurd same whole_extent_ne_fractional
      | infinite negative => cases negative <;> cases same
  | fractional negative rank not_whole =>
      cases right with
      | whole => exact absurd same.symm whole_extent_ne_fractional
      | fractional other_negative other_rank =>
          rw [extent, extent, Extent.at.injEq] at same
          have ranks := congrArg Int.natAbs same
          rw [Binary64.natAbs_signedUnits, Binary64.natAbs_signedUnits] at ranks
          obtain rfl : rank = other_rank := Fin.ext (Binary64.units_injective ranks)
          by_cases signs : negative = other_negative
          · subst signs
            rfl
          · -- only zero is its own opposite, and zero is a whole number
            rw [Bool.eq_not_of_ne signs, Binary64.signedUnits_not] at same
            have zero : Binary64.signedUnits other_negative rank = 0 := by omega
            have held := Binary64.toInt?_finite_eq_some_iff negative rank 0
            rw [Bool.eq_not_of_ne signs, Binary64.signedUnits_not, zero] at held
            rw [Bool.eq_not_of_ne signs, held.mpr (by rw [Int.zero_mul, Int.neg_zero])] at not_whole
            cases not_whole
      | infinite negative => cases negative <;> cases same
  | infinite negative =>
      cases right with
      | whole | fractional => cases negative <;> cases same
      | infinite other => cases negative <;> cases other <;> first | rfl | cases same

theorem ofNat_data_ne_real (value : Nat) (negative : Bool) (real : Binary64) :
    (Numeral.ofNat value).data negative ≠ .ok (.real real) := by
  have plain : ((Numeral.ofNat value).fraction.isEmpty &&
      (Numeral.ofNat value).exponent?.isNone) = true := rfl
  rw [Numeral.data, if_pos plain]
  cases boundedWhole negative (Numeral.ofNat value).whole <;> rintro ⟨⟩

theorem whole_text_ne_fractional {value : Int} {negative : Bool} {rank : Fin finiteRanks}
    {not_whole : (Binary64.finite negative rank).toInt? = none} :
    (whole value).text ≠ (fractional negative rank not_whole).text := by
  obtain ⟨numeral, text_eq, reads⟩ := Numeral.exists_text_shortest rank
  rw [text, text, Numeral.wholeText_eq, ← text_eq]
  intro same
  obtain ⟨-, texts⟩ :=
    Numeral.signed_injective (Numeral.text_unsigned _) (Numeral.text_unsigned _) same
  have written := reads negative
  rw [← Numeral.text_injective texts] at written
  exact ofNat_data_ne_real _ _ _ written

theorem signed_inf_ne {negative other : Bool} (numeral : Numeral) :
    Numeral.signed negative ['i', 'n', 'f'] ≠ Numeral.signed other numeral.text := by
  intro same
  obtain ⟨-, texts⟩ := Numeral.signed_injective (by decide) (Numeral.text_unsigned numeral) same
  obtain ⟨first, others, text_eq, first_digit⟩ := numeral.exists_first_digit
  rw [text_eq, List.cons.injEq] at texts
  rw [← texts.1] at first_digit
  cases first_digit

/-- A quantity is told by its text. -/
theorem text_injective {left right : Quantity} (same : left.text = right.text) : left = right := by
  cases left with
  | whole value =>
      cases right with
      | whole other =>
          rw [text, text, Numeral.wholeText_eq, Numeral.wholeText_eq] at same
          obtain ⟨signs, texts⟩ :=
            Numeral.signed_injective (Numeral.text_unsigned _) (Numeral.text_unsigned _) same
          have digits := congrArg Numeral.whole (Numeral.text_injective texts)
          have magnitudes := congrArg Decimal.ofDigits digits
          rw [Numeral.ofNat, Numeral.ofNat, Decimal.ofDigits_digits, Decimal.ofDigits_digits]
            at magnitudes
          rw [decide_eq_decide] at signs
          refine congrArg whole ?_
          omega
      | fractional => exact absurd same whole_text_ne_fractional
      | infinite negative =>
          rw [text, Numeral.wholeText_eq, text] at same
          exact absurd same.symm (signed_inf_ne _)
  | fractional negative rank not_whole =>
      obtain ⟨numeral, text_eq, reads⟩ := Numeral.exists_text_shortest rank
      cases right with
      | whole => exact absurd same.symm whole_text_ne_fractional
      | fractional other_negative other_rank =>
          obtain ⟨other, other_eq, other_reads⟩ := Numeral.exists_text_shortest other_rank
          rw [text, text, ← text_eq, ← other_eq] at same
          obtain ⟨rfl, texts⟩ :=
            Numeral.signed_injective (Numeral.text_unsigned _) (Numeral.text_unsigned _) same
          have written := reads negative
          rw [Numeral.text_injective texts, other_reads] at written
          cases written
          rfl
      | infinite =>
          rw [text, text, ← text_eq] at same
          exact absurd same.symm (signed_inf_ne numeral)
  | infinite negative =>
      cases right with
      | whole value =>
          rw [text, text, Numeral.wholeText_eq] at same
          exact absurd same (signed_inf_ne _)
      | fractional other_negative other_rank =>
          obtain ⟨other, other_eq, -⟩ := Numeral.exists_text_shortest other_rank
          rw [text, text, ← other_eq] at same
          exact absurd same (signed_inf_ne other)
      | infinite other =>
          obtain ⟨signs, -⟩ := Numeral.signed_injective (by decide) (by decide) same
          exact congrArg infinite signs

end Quantity

namespace Number

/-- A number has a text and a size: it is neither not-a-number nor a whole number of too many
digits. -/
def IsDefinite : Number → Prop
  | .boolean _ => True
  | .integer value => (Decimal.digits value.natAbs).length ≤ digitLimit
  | .real value => value ≠ .nan

/-- What a number comes to. -/
inductive ComesTo : Number → Quantity → Prop
  | boolean (value : Bool) : ComesTo (.boolean value) (.whole (if value then 1 else 0))
  | integer (value : Int) : ComesTo (.integer value) (.whole value)
  | integral {negative : Bool} {rank : Fin finiteRanks} {whole : Int} :
      (Binary64.finite negative rank).toInt? = some whole →
      ComesTo (.real (.finite negative rank)) (.whole whole)
  | fractional {negative : Bool} {rank : Fin finiteRanks}
      (not_whole : (Binary64.finite negative rank).toInt? = none) :
      ComesTo (.real (.finite negative rank)) (.fractional negative rank not_whole)
  | infinite (negative : Bool) : ComesTo (.real (.infinite negative)) (.infinite negative)

variable {number left right : Number} {quantity : Quantity}

theorem exists_comesTo (definite : number.IsDefinite) : ∃ quantity, number.ComesTo quantity := by
  cases number with
  | boolean value => exact ⟨_, .boolean value⟩
  | integer value => exact ⟨_, .integer value⟩
  | real value =>
      cases value with
      | nan => exact absurd rfl definite
      | infinite negative => exact ⟨_, .infinite negative⟩
      | finite negative rank =>
          cases held : (Binary64.finite negative rank).toInt? with
          | some whole => exact ⟨_, .integral held⟩
          | none => exact ⟨_, .fractional held⟩

theorem ComesTo.extent? (comes : number.ComesTo quantity) :
    number.extent? = some quantity.extent := by
  cases comes with
  | boolean value =>
      cases value with
      | false =>
          rw [Number.extent?, Quantity.extent, if_neg Bool.false_ne_true,
            if_neg Bool.false_ne_true, Int.zero_mul]
      | true => rw [Number.extent?, Quantity.extent, if_pos rfl, if_pos rfl, Int.one_mul]
  | integer value => rfl
  | @integral negative rank whole held =>
      rw [Number.extent?, Quantity.extent,
        (Binary64.toInt?_finite_eq_some_iff negative rank whole).mp held]
  | fractional | infinite => rfl

theorem ComesTo.display (comes : number.ComesTo quantity) (definite : number.IsDefinite) :
    number.display = .ok (String.ofList quantity.text) := by
  cases comes with
  | boolean value => cases value <;> rfl
  | integer value =>
      have few := (Nat.length_toDigits_le_iff (by decide) (by decide)).mp definite
      rw [← Nat.pow_eq] at few
      rw [Number.display, boundedText, if_pos few]
      rfl
  | integral held =>
      rw [Number.display, held]
      rfl
  | fractional not_whole =>
      rw [Number.display, not_whole]
      rfl
  | infinite negative => cases negative <;> rfl

/-- The exact value of a number among the rationals and the infinities; not-a-number has none. -/
def rational? : Number → Option (WithBotTop ℚ)
  | .boolean value => some ((if value then 1 else 0 : ℚ) : WithBotTop ℚ)
  | .integer value => some ((value : ℚ) : WithBotTop ℚ)
  | .real .nan => none
  | .real (.infinite negative) => some (if negative then ⊥ else ⊤)
  | .real (.finite negative rank) => some ((Binary64.finite negative rank).toRat : WithBotTop ℚ)

end Number

theorem Binary64.cast_unitsPerOne_ne_zero : (unitsPerOne : ℚ) ≠ 0 :=
  Nat.cast_ne_zero.mpr unitsPerOne_pos.ne'

namespace Extent

/-- The exact value of a size in units. -/
def toExact : Extent → WithBotTop ℚ
  | .below => ⊥
  | .at units => ((units / Binary64.unitsPerOne : ℚ) : WithBotTop ℚ)
  | .above => ⊤

theorem toExact_injective : Function.Injective toExact := by
  intro left right same
  cases left with
  | below => cases right <;> first | rfl | cases same
  | above => cases right <;> first | rfl | cases same
  | «at» units =>
      cases right with
      | below | above => cases same
      | «at» other =>
          rw [toExact, toExact, WithBotTop.coe_injective.eq_iff,
            div_left_inj' Binary64.cast_unitsPerOne_ne_zero, Int.cast_inj] at same
          rw [same]

end Extent

namespace Number

variable {left right : Number}

/-- The exact value of a number is that of its size. -/
theorem rational?_eq (number : Number) : number.rational? = number.extent?.map Extent.toExact := by
  cases number with
  | boolean value =>
      cases value with
      | false =>
          rw [rational?, extent?, if_neg Bool.false_ne_true, if_neg Bool.false_ne_true,
            Option.map_some, Extent.toExact, Int.cast_zero, zero_div]
      | true =>
          rw [rational?, extent?, if_pos rfl, if_pos rfl, Option.map_some, Extent.toExact,
            Int.cast_natCast, div_self Binary64.cast_unitsPerOne_ne_zero]
  | integer value =>
      rw [rational?, extent?, Option.map_some, Extent.toExact, Int.cast_mul, Int.cast_natCast,
        mul_div_cancel_right₀ _ Binary64.cast_unitsPerOne_ne_zero]
  | real value =>
      cases value with
      | nan => rfl
      | infinite negative => cases negative <;> rfl
      | finite negative rank => rfl

/-- Definite numbers have a text each.  The texts are the same if and only if the numbers are equal,
that is, have the same exact value. -/
theorem display_alike_iff_equal (left_definite : left.IsDefinite)
    (right_definite : right.IsDefinite) :
    ∃ leftText rightText, left.display = .ok leftText ∧ right.display = .ok rightText ∧
      (leftText = rightText ↔ left.equal right = true) ∧
      (left.equal right = true ↔ left.rational? = right.rational?) := by
  obtain ⟨leftQuantity, left_comes⟩ := exists_comesTo left_definite
  obtain ⟨rightQuantity, right_comes⟩ := exists_comesTo right_definite
  have equal_iff : left.equal right = true ↔ leftQuantity.extent = rightQuantity.extent := by
    rw [equal, relate, left_comes.extent?, right_comes.extent?]
    exact decide_eq_true_iff
  refine ⟨_, _, left_comes.display left_definite, right_comes.display right_definite, ?_, ?_⟩
  · rw [equal_iff, String.ofList_inj]
    constructor
    · intro texts
      rw [Quantity.text_injective texts]
    · intro extents
      rw [Quantity.extent_injective extents]
  · rw [equal_iff, rational?_eq, rational?_eq, left_comes.extent?, right_comes.extent?,
      Option.map_some, Option.map_some, Option.some_inj, Extent.toExact_injective.eq_iff]

/-- The double-precision value nearest to `10 ^ 23`. -/
def sextillions : Number :=
  .real (.finite false ⟨4950912855330343670, by decide⟩)

theorem sextillions_displayed :
    sextillions.IsDefinite ∧ (integer 99999999999999991611392).IsDefinite ∧
      ∃ text, sextillions.display = .ok text ∧
        (integer 99999999999999991611392).display = .ok text := by
  have real_definite : sextillions.IsDefinite := nofun
  have whole_definite : (integer 99999999999999991611392).IsDefinite := by
    unfold IsDefinite
    decide +kernel
  have equals : sextillions.equal (integer 99999999999999991611392) = true := by
    decide +kernel
  obtain ⟨text, other, real_text, whole_text, alike_iff, -⟩ :=
    display_alike_iff_equal real_definite whole_definite
  obtain rfl := alike_iff.mpr equals
  exact ⟨real_definite, whole_definite, text, real_text, whole_text⟩

end Number
end PayGraph
