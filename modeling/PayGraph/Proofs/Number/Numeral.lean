import PayGraph.Data
import PayGraph.Proofs.Number.Shortest

/-!
# Numerals

The written form of a number is a numeral after its sign.  A numeral has whole digits without
leading zeros and perhaps fraction digits or an exponent; which of these it has tells whole numbers
from double-precision values.  The numeral of a value stands for its shortest decimal, up to zeros
at the end.
-/

namespace PayGraph

/-- Text that may follow a number: it starts with a comma, a space or a line break. -/
inductive Parted : List Char → Prop
  | comma (rest : List Char) : Parted (',' :: rest)
  | space (rest : List Char) : Parted (' ' :: rest)
  | line (rest : List Char) : Parted ('\n' :: rest)

namespace Decimal

theorem digits_ne_nil (value : Nat) : digits value ≠ [] :=
  Nat.toDigits_ne_nil

theorem isDigit_of_mem_digits {value : Nat} {digit : Char} (digit_mem : digit ∈ digits value) :
    digit.isDigit :=
  Nat.isDigit_of_mem_toDigits (by decide) (by decide) digit_mem

theorem ofDigits_digits (value : Nat) : ofDigits (digits value) = value :=
  Nat.ofDigitChars_ten_toDigits

theorem ofDigits_append_zeros (written : List Char) (count : Nat) :
    ofDigits (written ++ List.replicate count '0') = ofDigits written * 10 ^ count := by
  have joined := Nat.ofDigitChars_append (b := 10) (l := written) (m := List.replicate count '0') 0
  rw [Nat.ofDigitChars_replicate_zero, Nat.mul_comm] at joined
  exact joined

theorem ofDigits_zeros_append (count : Nat) (written : List Char) :
    ofDigits (List.replicate count '0' ++ written) = ofDigits written := by
  have joined := Nat.ofDigitChars_append (b := 10) (l := List.replicate count '0') (m := written) 0
  rw [Nat.ofDigitChars_replicate_zero, Nat.mul_zero] at joined
  exact joined

theorem head?_digits_ne {value : Nat} (positive : 0 < value) :
    (digits value).head? ≠ some '0' := by
  induction value using Nat.strongRecOn with
  | ind value induction =>
      rcases Nat.lt_or_ge value 10 with small | large
      · rw [digits, Nat.toDigits_of_lt_base small, List.head?_cons]
        simp [Nat.digitChar_eq_zero]
        omega
      · have shorter := induction (value / 10) (by omega) (by omega)
        rw [digits] at shorter ⊢
        rwa [Nat.toDigits_of_base_le (by decide) large, List.head?_append,
          Option.or_of_isSome (by simp [Nat.toDigits_ne_nil])]

/-- An exponent is written as its sign and a run of digits for its size. -/
theorem exists_exponentText_eq (exponent : Int) :
    ∃ run, exponentText exponent = (if exponent < 0 then '-' else '+') :: run ∧ run ≠ [] ∧
      (∀ digit ∈ run, digit.isDigit) ∧ ofDigits run = exponent.natAbs := by
  have written_digits : ∀ digit ∈ digits exponent.natAbs, digit.isDigit :=
    fun _ => isDigit_of_mem_digits
  by_cases short : (digits exponent.natAbs).length < 2
  · refine ⟨'0' :: digits exponent.natAbs, by simp [exponentText, short], by simp, ?_, ?_⟩
    · simpa using written_digits
    · exact (ofDigits_zeros_append 1 _).trans (ofDigits_digits _)
  · exact ⟨digits exponent.natAbs, by simp [exponentText, short], digits_ne_nil _, written_digits,
      ofDigits_digits _⟩

end Decimal

/-- Parts of an unsigned numeral. -/
structure Numeral where
  /-- Digits before the point. -/
  whole : List Char
  /-- Digits after the point; there is no point without them. -/
  fraction : List Char := []
  /-- Power of ten, if it is written. -/
  exponent? : Option Int := none
  whole_ne : whole ≠ []
  whole_digits : ∀ digit ∈ whole, digit.isDigit
  fraction_digits : ∀ digit ∈ fraction, digit.isDigit
  unpadded : whole.head? = some '0' → whole = ['0']

namespace Numeral

/-- Written form of the fraction. -/
def fractionText (numeral : Numeral) : List Char :=
  if numeral.fraction = [] then [] else '.' :: numeral.fraction

/-- Written form of the exponent. -/
def exponentText (numeral : Numeral) : List Char :=
  match numeral.exponent? with
  | none => []
  | some exponent => 'e' :: Decimal.exponentText exponent

/-- Written form of a numeral. -/
def text (numeral : Numeral) : List Char :=
  numeral.whole ++ numeral.fractionText ++ numeral.exponentText

/-- Decimal that a numeral stands for. -/
def decimal (numeral : Numeral) : Decimal :=
  .ofParts numeral.whole numeral.fraction (numeral.exponent?.getD 0)

/-- What a numeral stands for after its sign: a whole number if it has whole digits only. -/
def data (negative : Bool) (numeral : Numeral) : Except ParseFault Data :=
  if numeral.fraction.isEmpty && numeral.exponent?.isNone then
    (boundedWhole negative numeral.whole).map .whole
  else .ok (.real (numeral.decimal.toBinary64 negative))

theorem not_mem_text (numeral : Numeral) : '\r' ∉ numeral.text := by
  have not_digit {run : List Char} (run_digits : ∀ digit ∈ run, digit.isDigit) : '\r' ∉ run :=
    fun return_mem => by cases run_digits _ return_mem
  have fraction_plain : '\r' ∉ numeral.fractionText := by
    rw [fractionText]
    split
    · exact List.not_mem_nil
    · simpa using not_digit numeral.fraction_digits
  have exponent_plain : '\r' ∉ numeral.exponentText := by
    rw [exponentText]
    split
    · exact List.not_mem_nil
    · rename_i exponent _
      obtain ⟨run, text_eq, -, run_digits, -⟩ := Decimal.exists_exponentText_eq exponent
      have sign_plain : '\r' ≠ (if exponent < 0 then '-' else '+') := by split <;> decide
      simpa [text_eq, sign_plain] using not_digit run_digits
  simp [text, not_digit numeral.whole_digits, fraction_plain, exponent_plain]

/-- A numeral with a sign if it is negative. -/
def signed (negative : Bool) (written : List Char) : List Char :=
  if negative then '-' :: written else written

/-- A leading zero is the only whole digit. -/
theorem whole_eq_of_leading {numeral : Numeral} {following after : List Char}
    (leading : numeral.whole ++ following = '0' :: after) :
    numeral.whole = ['0'] ∧ after = following := by
  have whole_eq : numeral.whole = ['0'] := by
    apply numeral.unpadded
    obtain ⟨first, others, first_eq⟩ := List.exists_cons_of_ne_nil numeral.whole_ne
    rw [first_eq, List.cons_append, List.cons.injEq] at leading
    rw [first_eq, List.head?_cons, leading.1]
  rw [whole_eq, List.singleton_append, List.cons.injEq] at leading
  exact ⟨whole_eq, leading.2.symm⟩

theorem exists_first_digit (numeral : Numeral) :
    ∃ first others, numeral.text = first :: others ∧ first.isDigit := by
  obtain ⟨first, others, whole_eq⟩ := List.exists_cons_of_ne_nil numeral.whole_ne
  refine ⟨first, others ++ numeral.fractionText ++ numeral.exponentText, ?_, ?_⟩
  · rw [text, whole_eq, List.cons_append, List.cons_append]
  · exact numeral.whole_digits first (by simp [whole_eq])

/-- Numeral of a whole number. -/
def ofNat (value : Nat) : Numeral where
  whole := Decimal.digits value
  whole_ne := Decimal.digits_ne_nil value
  whole_digits _ := Decimal.isDigit_of_mem_digits
  fraction_digits _ digit_mem := by cases digit_mem
  unpadded leading := by
    rcases Nat.eq_zero_or_pos value with rfl | positive
    · rfl
    · exact absurd leading (Decimal.head?_digits_ne positive)

theorem text_ofNat (value : Nat) : (ofNat value).text = Decimal.digits value := by
  simp [text, fractionText, exponentText, ofNat]

theorem wholeText_eq (value : Int) :
    wholeText value = signed (decide (value < 0)) (ofNat value.natAbs).text := by
  simp only [wholeText, signed, text_ofNat, decide_eq_true_eq]

/-- The numeral of a whole number with few digits stands for it. -/
theorem data_ofNat {value : Int} (few : value.natAbs < Nat.pow 10 digitLimit) :
    (ofNat value.natAbs).data (decide (value < 0)) = .ok (.whole value) := by
  have short : (Decimal.digits value.natAbs).length ≤ digitLimit :=
    (Nat.length_toDigits_le_iff (by decide) (by decide)).mpr few
  have bounded : boundedWhole (decide (value < 0)) (ofNat value.natAbs).whole = .ok value := by
    simp only [boundedWhole, ofNat, if_neg (Nat.not_lt.mpr short), Decimal.ofDigits_digits,
      decide_eq_true_eq, Except.ok.injEq]
    split <;> omega
  have plain : ((ofNat value.natAbs).fraction.isEmpty && (ofNat value.natAbs).exponent?.isNone) =
      true := rfl
  rw [data, if_pos plain, bounded]
  rfl

/-- The text is a numeral with a fraction or an exponent for the decimal, with zeros at the end in
places. -/
def Writes (decimal : Decimal) (written : List Char) : Prop :=
  ∃ numeral : Numeral, numeral.text = written ∧
    (numeral.fraction.isEmpty && numeral.exponent?.isNone) = false ∧
    ∃ zeros, numeral.decimal = decimal.pad zeros

section Layouts

variable {written : List Char} (written_ne : written ≠ [])
  (written_digits : ∀ digit ∈ written, digit.isDigit) (leading_ne : written.head? ≠ some '0')

include written_ne written_digits leading_ne

/-- Digits, zeros up to the point and one after it. -/
theorem writes_padded (count : Nat) :
    Writes ⟨Decimal.ofDigits written, count⟩
      (written ++ List.replicate count '0' ++ ['.', '0']) := by
  have zeros_eq : List.replicate count '0' ++ ['0'] = List.replicate (count + 1) '0' :=
    List.replicate_succ'.symm
  refine ⟨{
    whole := written ++ List.replicate count '0'
    fraction := ['0']
    whole_ne := List.append_ne_nil_of_left_ne_nil written_ne _
    whole_digits := ?_
    fraction_digits := by simp
    unpadded := ?_ }, ?_, rfl, count + 1, ?_⟩
  · intro digit digit_mem
    rcases List.mem_append.mp digit_mem with given | zero
    · exact written_digits digit given
    · rw [List.eq_of_mem_replicate zero]
      rfl
  · intro leading
    rw [List.head?_append, Option.or_of_isSome (by simp [written_ne])] at leading
    exact absurd leading leading_ne
  · simp [text, fractionText, exponentText]
  · simp [Numeral.decimal, Decimal.ofParts, Decimal.pad, zeros_eq, Decimal.ofDigits_append_zeros]

/-- Digits with the point among them. -/
theorem writes_pointed (before : Nat) (before_pos : 0 < before)
    (divided : before < written.length) :
    Writes ⟨Decimal.ofDigits written, before - written.length⟩
      (written.take before ++ '.' :: written.drop before) := by
  have drop_ne : written.drop before ≠ [] := by simpa using divided
  refine ⟨{
    whole := written.take before
    fraction := written.drop before
    whole_ne := by simp [written_ne, before_pos.ne']
    whole_digits := fun digit digit_mem => written_digits digit (List.mem_of_mem_take digit_mem)
    fraction_digits := fun digit digit_mem =>
      written_digits digit (List.mem_of_mem_drop digit_mem)
    unpadded := ?_ }, ?_, ?_, 0, ?_⟩
  · intro leading
    rw [List.head?_take, if_neg before_pos.ne'] at leading
    exact absurd leading leading_ne
  · simp [text, fractionText, exponentText, drop_ne]
  · simpa using divided
  · simp [Numeral.decimal, Decimal.ofParts, Decimal.pad]
    omega

end Layouts

/-- A zero, the point, further zeros and the digits. -/
theorem writes_small {written : List Char} (written_ne : written ≠ [])
    (written_digits : ∀ digit ∈ written, digit.isDigit) (count : Nat) :
    Writes ⟨Decimal.ofDigits written, -(count + written.length : Nat)⟩
      ('0' :: '.' :: List.replicate count '0' ++ written) := by
  refine ⟨{
    whole := ['0']
    fraction := List.replicate count '0' ++ written
    whole_ne := List.cons_ne_nil _ _
    whole_digits := by simp
    fraction_digits := ?_
    unpadded := fun _ => rfl }, ?_, ?_, 0, ?_⟩
  · intro digit digit_mem
    rcases List.mem_append.mp digit_mem with zero | given
    · rw [List.eq_of_mem_replicate zero]
      rfl
    · exact written_digits digit given
  · simp [text, fractionText, exponentText, written_ne]
  · simp [written_ne]
  · have zeros_eq : ['0'] ++ (List.replicate count '0' ++ written) =
        List.replicate (count + 1) '0' ++ written := by
      rw [List.replicate_succ]
      rfl
    simp only [Numeral.decimal, Decimal.ofParts, Decimal.pad, zeros_eq,
      Decimal.ofDigits_zeros_append]
    simp

/-- One digit before the point, the others after it, and an exponent. -/
theorem writes_scaled {leading : Char} {following : List Char}
    (written_digits : ∀ digit ∈ leading :: following, digit.isDigit) (power : Int) :
    Writes ⟨Decimal.ofDigits (leading :: following), power - following.length⟩
      ((if following = [] then [leading] else leading :: '.' :: following) ++
        'e' :: Decimal.exponentText power) := by
  refine ⟨{
    whole := [leading]
    fraction := following
    exponent? := some power
    whole_ne := List.cons_ne_nil _ _
    whole_digits := fun digit digit_mem => ?_
    fraction_digits := fun digit digit_mem =>
      written_digits digit (List.mem_cons_of_mem _ digit_mem)
    unpadded := fun zero => ?_ }, ?_, ?_, 0, ?_⟩
  · rw [List.mem_singleton.mp digit_mem]
    exact written_digits leading List.mem_cons_self
  · rw [Option.some.inj zero]
  · simp only [text, fractionText, exponentText]
    split <;> rfl
  · simp
  · simp [Numeral.decimal, Decimal.ofParts, Decimal.pad]

/-- A positive decimal is written as a numeral for it. -/
theorem writes_text {decimal : Decimal} (nonzero : decimal.significand ≠ 0) :
    Writes decimal decimal.text := by
  obtain ⟨significand, exponent⟩ := decimal
  have written_ne := Decimal.digits_ne_nil significand
  have written_digits : ∀ digit ∈ Decimal.digits significand, digit.isDigit :=
    fun _ => Decimal.isDigit_of_mem_digits
  have leading_ne := Decimal.head?_digits_ne (Nat.pos_of_ne_zero nonzero)
  have value_eq := Decimal.ofDigits_digits significand
  simp only [Decimal.text, if_neg nonzero]
  generalize Decimal.digits significand = written at *
  subst value_eq
  split
  · rename_i point_bounds
    split
    · have padded := writes_padded written_ne written_digits leading_ne
        ((written.length + exponent).toNat - written.length)
      rwa [show (((written.length + exponent).toNat - written.length : Nat) : Int) = exponent by
        omega] at padded
    · rename_i divided
      have pointed := writes_pointed written_ne written_digits leading_ne
        (written.length + exponent).toNat (by omega) (by omega)
      rwa [show (((written.length + exponent).toNat : Nat) : Int) - written.length = exponent by
        omega] at pointed
  · split
    · have small := writes_small written_ne written_digits (-(written.length + exponent)).toNat
      rwa [show -(((-(written.length + exponent)).toNat + written.length : Nat) : Int) = exponent by
        omega] at small
    · obtain ⟨leading, following, rfl⟩ := List.exists_cons_of_ne_nil written_ne
      have scaled := writes_scaled written_digits ((leading :: following).length + exponent - 1)
      rw [show ((leading :: following).length : Int) + exponent - 1 - following.length = exponent by
        rw [List.length_cons]
        omega] at scaled
      cases following <;> exact scaled

/-- The shortest text of a finite value is a numeral that reads back to it. -/
theorem exists_text_shortest (rank : Fin finiteRanks) :
    ∃ numeral : Numeral, numeral.text = (Decimal.shortest rank).text ∧
      ∀ negative, numeral.data negative = .ok (.real (.finite negative rank)) := by
  by_cases nonzero : (Decimal.shortest rank).significand ≠ 0
  · obtain ⟨numeral, text_eq, pointed, zeros, decimal_eq⟩ := writes_text nonzero
    refine ⟨numeral, text_eq, fun negative => ?_⟩
    rw [data, pointed, decimal_eq, Decimal.toBinary64_pad_shortest]
    rfl
  · have significand_eq := Decidable.not_not.mp nonzero
    have rank_eq := Decimal.eq_zero_of_significand_shortest rank.isLt significand_eq
    let numeral : Numeral := {
      whole := ['0']
      fraction := ['0']
      whole_ne := List.cons_ne_nil _ _
      whole_digits := by simp
      fraction_digits := by simp
      unpadded := fun _ => rfl }
    have read : numeral.decimal.rank? = some rank.val := by
      rw [rank_eq]
      exact Decimal.rank?_zero _
    refine ⟨numeral, ?_, fun negative => ?_⟩
    · rw [Decimal.text, if_pos significand_eq]
      rfl
    · exact congrArg (Except.ok ∘ Data.real) (Decimal.toBinary64_eq read negative)

end Numeral
end PayGraph
